import Verdict.Text.CharSet

/-!
# General categories

The table lists runs of code points of one category, from 0 on, as pairs of the category and the
length of the run less one.
-/

namespace Verdict.Unicode

def categoryNames : List String :=
  ["cc", "cf", "cn", "co", "cs", "ll", "lm", "lo", "lt", "lu", "mc", "me", "mn", "nd", "nl", "no",
    "pc", "pd", "pe", "pf", "pi", "po", "ps", "sc", "sk", "sm", "so", "zl", "zp", "zs"]

def categoryGroups : List (String × List String) :=
  [("c", ["cc", "cf", "cn", "co", "cs"]), ("other", ["cc", "cf", "cn", "co", "cs"]),
    ("control", ["cc"]), ("cntrl", ["cc"]), ("format", ["cf"]), ("unassigned", ["cn"]),
    ("privateuse", ["co"]), ("surrogate", ["cs"]), ("l", ["ll", "lm", "lo", "lt", "lu"]),
    ("letter", ["ll", "lm", "lo", "lt", "lu"]), ("lc", ["ll", "lt", "lu"]),
    ("casedletter", ["ll", "lt", "lu"]), ("lowercaseletter", ["ll"]), ("modifierletter", ["lm"]),
    ("otherletter", ["lo"]), ("titlecaseletter", ["lt"]), ("uppercaseletter", ["lu"]),
    ("m", ["mc", "me", "mn"]), ("mark", ["mc", "me", "mn"]),
    ("combiningmark", ["mc", "me", "mn"]), ("spacingmark", ["mc"]), ("enclosingmark", ["me"]),
    ("nonspacingmark", ["mn"]), ("n", ["nd", "nl", "no"]), ("number", ["nd", "nl", "no"]),
    ("decimalnumber", ["nd"]), ("digit", ["nd"]), ("letternumber", ["nl"]),
    ("othernumber", ["no"]), ("p", ["pc", "pd", "pe", "pf", "pi", "po", "ps"]),
    ("punctuation", ["pc", "pd", "pe", "pf", "pi", "po", "ps"]),
    ("punct", ["pc", "pd", "pe", "pf", "pi", "po", "ps"]), ("connectorpunctuation", ["pc"]),
    ("dashpunctuation", ["pd"]), ("closepunctuation", ["pe"]), ("finalpunctuation", ["pf"]),
    ("initialpunctuation", ["pi"]), ("otherpunctuation", ["po"]), ("openpunctuation", ["ps"]),
    ("s", ["sc", "sk", "sm", "so"]), ("symbol", ["sc", "sk", "sm", "so"]),
    ("currencysymbol", ["sc"]), ("modifiersymbol", ["sk"]), ("mathsymbol", ["sm"]),
    ("othersymbol", ["so"]), ("z", ["zl", "zp", "zs"]), ("separator", ["zl", "zp", "zs"]),
    ("lineseparator", ["zl"]), ("paragraphseparator", ["zp"]), ("spaceseparator", ["zs"])]

def categoryTable : List String :=
  ["AbFbDAVCXAVCWASAVAZAVARAVBNJVBZCVBJZWAVASAYAQAYAFZWAZASAZAAbGbDAVAXDbAAVAYAbAAHAUAZABAbAAY",
   "AbAAZAPBYAFAVBYAPAHATAPCVAJWZAJGFXZAFHJAFAJAFAJAFAJAFAJAFAJAFAJAFAJAFAJAFAJAFAJAFAJAFAJAFA",
   "JAFAJAFAJAFAJAFAJAFAJAFAJAFAJAFAJAFAJAFAJAFAJAFAJAFAJAFAJAFBJAFAJAFAJAFAJAFAJAFAJAFAJAFAJA",
   "FBJAFAJAFAJAFAJAFAJAFAJAFAJAFAJAFAJAFAJAFAJAFAJAFAJAFAJAFAJAFAJAFAJAFAJAFAJAFAJAFAJAFAJAFA",
   "JAFAJBFAJAFAJAFCJBFAJAFAJBFAJCFBJDFAJBFAJCFCJBFAJBFAJAFAJAFAJBFAJAFBJAFAJBFAJCFAJAFAJBFBHA",
   "JAFCHDJAIAFAJAIAFAJAIAFAJAFAJAFAJAFAJAFAJAFAJAFAJAFAJAFBJAFAJAFAJAFAJAFAJAFAJAFAJAFAJAFAJA",
   "FBJAIAFAJAFAJCFAJAFAJAFAJAFAJAFAJAFAJAFAJAFAJAFAJAFAJAFAJAFAJAFAJAFAJAFAJAFAJAFAJAFAJAFAJA",
   "FAJAFAJAFAJAFAJAFAJAFAJAFAJAFAJAFAJAFAJAFGJBFAJBFBJAFAJDFAJAFAJAFAJAFAJAFcQHBFZGRYDGLYNGEY",
   "GGAYAGAYQMeHJAFAJAFAGAYAJAFACBGAFCVAJACDYBJAVAJCCAJACAJBFAJQCAJIFbIJAFBJCFCJAFAJAFAJAFAJAF",
   "AJAFAJAFAJAFAJAFAJAFAJAFAJAFAJAFEJAFAZAJAFAJBFBJbYFbVJAFAJAFAJAFAJAFAJAFAJAFAJAFAJAFAJAFAJ",
   "AFAJAFAJAFAJAFAJAFAJAFAJAFAJAFAbAAMELBJAFAJAFAJAFAJAFAJAFAJAFAJAFAJAFAJAFAJAFAJAFAJAFAJAFA",
   "JAFAJAFAJAFAJAFAJAFAJAFAJAFAJAFAJAFAJAFAJAFAJAFAJAFAJAFAJBFAJAFAJAFAJAFAJAFAJAFAJAFBJAFAJA",
   "FAJAFAJAFAJAFAJAFAJAFAJAFAJAFAJAFAJAFAJAFAJAFAJAFAJAFAJAFAJAFAJAFAJAFAJAFAJAFAJAFAJAFAJAFA",
   "JAFAJAFAJAFAJAFAJAFAJAFAJAFAJAFAJAFAJAFAJAFAJAFAJAFAJAFAJAFAJAFAJAFAJAFAJAFAJAFAJAFAJAFAJA",
   "FAJAFACAJbLCBGAVFFbOVARACBbABXACAMbSRAMAVAMBVAMBVAMACHHbACDHDVBCKBFZCVBXAVBbABMKVABAVCHbFG",
   "AHJMUNJVDHBMAHdUVAHAMGBAbAAMFGBMBbAAMDHBNJHCbABHAVNCABAHAMAHbDMbACBHdKMKHACNNJHbGMIGBbAAVC",
   "GACBMAXBHVMDGAMIGAMCGAMECBVOCAHYMCCBVACAHKCEHXYAHGBBCEMIHbOGAMXBAMbFKAHcBMAKAMAHAKCMHKDMAK",
   "BHAMGHJMBVBNJVAGAHOMAKBCAHHCBHBCBHVCAHGCAHACCHDCBMAHAKCMDCBKBCBKBMAHACHKACDHBCAHCMBCBNJHBX",
   "BPFbAAXAHAVAMACBMBKACAHFCDHBCBHVCAHGCAHBCAHBCAHBCBMACAKCMBCDMBCBMCCCMACGHDCAHACGNJMBHCMAVA",
   "CJMBKACAHICAHCCAHVCAHGCAHBCAHECBMAHAKCMECAMBKACAKBMACBHACOHBMBCBNJVAXACGHAMFCAMAKBCAHHCBHB",
   "CBHVCAHGCAHBCAHECBMAHAKAMAKAMDCBKBCBKBMACGMBKACDHBCAHCMBCBNJbAAHAPFCJMAHACAHFCCHCCAHDCCHBC",
   "AHACAHBCCHBCCHCCCHLCDKBMAKBCCKCCAKCMACBHACFKACNNJPCbAFXAbAACEMAKCMAHHCAHCCAHWCAHPCBMAHAMCK",
   "DCAMCCAMDCGMBCAHCCAHBCBHBMBCBNJCGVAPGbAAHAMAKBVAHHCAHCCAHWCAHJCAHECBMAHAKAMAKECAMAKBCAKBMB",
   "CGKBCEHCCAHBMBCBNJCAHBKACLMBKBHICAHCCAHbOMBHAKCMDCAKCCAKCMAHAbAACDHCKAPGHCMBCBNJPIbAAHFCAM",
   "AKBCAHRCCHXCAHICAHACBHGCCMACDKCMCCAMACAKHCFNJCBKBVACLHbVMAHBMGCDXAHFGAMHVANJVBCbKHBCAHACAH",
   "ECAHXCAHACAHJMAHBMIHACBHECAGACAMGCANJCBHDCbFHAbACVObAAVAbACMBbAFNJPJbAAMAbAAMAbAAMAWASAWAS",
   "AKBHHCAHbJCDMNKAMEVAMBHEMKCAMbJCAbAHMAbAFCAbABVEbADVBCbKHbQKBMDKAMFKAMBKBMBHANJVFHFKBMBHDM",
   "CHAKCHBKGHCMDHMMAKBMBKFMAHAKANJKCMAbABJbLCAJACEJACBFbQVAGAFCHmQCAHDCBHGCAHACAHDCBHbOCAHDCB",
   "HbGCAHDCBHGCAHACAHDCBHOCAHcECAHDCBHcOCBMCVIPTCCHPbAJCFJdHCBFFCBRAHxVbAAVAHQbDAHZWASACCHcWV",
   "COCHHCGHRMCKACIHSMBKAVBCIHRMBCLHMCAHCCAMBCLHbZMBKAMGKHMAKBMKVCGAVCXAHAMACBNJCFPJCFVFRAVDMC",
   "BAMANJCFHbIGAHcACGHEMBHbHMAHACEHcRCJHbECAMCKDMBKCCDKBMAKFMCCDbAACCVBNJHbDCBHECKHbRCDHZCFNJ",
   "PACCbAbHHWMBKBMACBVBHcAKAMAKAMGCAMAKAMAKBMHKFMJCBMANJCFNJCFVGGAVFCBMNLAMbECBMLCTMDKAHbUMAK",
   "AMEKAMAKEMAKBHHCAVBNJVGbAJMIbAIVCMBKAHbDKAMDKBMBKAMCHBNJHbRMAKAMBKCMAKAMCKBCHVDHbJKHMHKBMB",
   "CCVENJCCHCNJHbDGFVBFIJAFACEJbQCBJCVHCHMCVAMMKAMGHDMAHFMAHBKAMBHACEFbRGcKFMGAFbHGbKMcLJAFAJ",
   "AFAJAFAJAFAJAFAJAFAJAFAJAFAJAFAJAFAJAFAJAFAJAFAJAFAJAFAJAFAJAFAJAFAJAFAJAFAJAFAJAFAJAFAJAF",
   "AJAFAJAFAJAFAJAFAJAFAJAFAJAFAJAFAJAFAJAFAJAFAJAFAJAFAJAFAJAFAJAFAJAFAJAFAJAFAJAFAJAFAJAFAJ",
   "AFAJAFAJAFAJAFAJAFAJAFAJAFAJAFAJAFAJAFAJAFAJAFAJAFAJAFAJAFAJAFAJAFAJAFAJAFAJAFAJAFAJAFAJAF",
   "AJAFAJAFAJAFAJAFAJAFAJAFIJAFAJAFAJAFAJAFAJAFAJAFAJAFAJAFAJAFAJAFAJAFAJAFAJAFAJAFAJAFAJAFAJ",
   "AFAJAFAJAFAJAFAJAFAJAFAJAFAJAFAJAFAJAFAJAFAJAFAJAFAJAFAJAFAJAFAJAFAJAFAJAFAJAFAJAFAJAFAJAF",
   "AJAFAJAFAJAFAJAFAJAFAJAFAJAFAJAFAJAFAJAFIJHFFCBJFCBFHJHFHJHFFCBJFCBFHCAJACAJACAJACAJAFHJHF",
   "NCBFHIHFHIHFHIHFECAFBJDIAYAFAYCFCCAFBJDIAYCFDCBFBJDCAYCFHJEYCCBFCCAFBJDIAYBCAbDKBERFVBUATA",
   "WAUBTAWAUAVHbBAbCABEbDAVIUATAVDQBVCZAWASAVKZAVAQAVJbDABECABJPAGACBPFZCWASAGAPJZCWASACAGMCC",
   "XbHCNMMLDMALCMLCObABJAbADJAbABFAJCFBJCFAbAAJAbABZAJEbAFJAbAAJAbAAJAbAAJDbAAFAJDFAHDFAbABFB",
   "JBZEJAFDbAAZAbABFAbAAPPObIJAFAODPAbABCDZEbAEZBbADZAbABZAbABZAbAGZAbAbEZBbABZAbAAZAbAbEZkHb",
   "AHWASAWASAbATZBbAGWASAbAdCZAbAbDZYbAbNZFbAcTCVbAKCUPcHbAcZPVbAhAZAbAIZAbAcBZHbAeGZAbAjNWAS",
   "AWASAWASAWASAWASAWASAWASAPbDbAbRZEWASAZbEWASAWASAWASAWASAWASAZPbAjVZfAWASAWASAWASAWASAWASA",
   "WASAWASAWASAWASAWASAWASAZcKWASAWASAZbFWASAZjXbAbVZUbABZFbAbMCBbAfHJbVFbVJAFAJCFBJAFAJAFAJA",
   "FAJDFAJAFBJAFFGBJCFAJAFAJAFAJAFAJAFAJAFAJAFAJAFAJAFAJAFAJAFAJAFAJAFAJAFAJAFAJAFAJAFAJAFAJA",
   "FAJAFAJAFAJAFAJAFAJAFAJAFAJAFAJAFAJAFAJAFAJAFAJAFAJAFAJAFAJAFAJAFAJAFAJAFAJAFAJAFAJAFAJAFA",
   "JAFAJAFAJAFAJAFAJAFAJAFAJAFAJAFAJAFBbAFJAFAJAFAMCJAFACEVDPAVBFbLCAFACEFACBHcDCGGAVACNMAHWC",
   "IHGCAHGCAHGCAHGCAHGCAHGCAHGCAHGCAMbFVBUATAUATAVCUATAVAUATAVIRAVBRAVAUATAVBUATAWASAWASAWASA",
   "WASAVEGAVJRBVDRAVAWAVMbABVCWASAWASAWASAWASARACbHbAZCAbAdKCLbAiFCZbAPbDAVCbAAGAHAOAWASAWASA",
   "WASAWASAWASAbABWASAWASAWASAWASARAWASBbAAOIMDKBRAGEbABOCGAHAVAbABCAHdHCBMBYBGBHARAHdLVAGCHA",
   "CEHbQCAHdPCAbABPDbAJHbFbAbLCIbAAHPbAbECAPJbAbDPHbAAPObAbFPJbAbMPObAmHHjtNbAcLHbfcEGAHbrYCC",
   "bAcCCIHbNGFVBHkHGAVCHPNJHBCTJAFAJAFAJAFAJAFAJAFAJAFAJAFAJAFAJAFAJAFAJAFAJAFAJAFAJAFAJAFAJA",
   "FAJAFAJAFAJAFAJAFAJAFAJAFAJAFAHAMALCVAMJVAGAJAFAJAFAJAFAJAFAJAFAJAFAJAFAJAFAJAFAJAFAJAFAJA",
   "FAJAFAJAFAGBMBHcROJMBVFCHYWGIYBJAFAJAFAJAFAJAFAJAFAJAFAJAFCJAFAJAFAJAFAJAFAJAFAJAFAJAFAJAF",
   "AJAFAJAFAJAFAJAFAJAFAJAFAJAFAJAFAJAFAJAFAJAFAJAFAJAFAJAFAJAFAJAFAJAFAJAFAJAFAJAFAJAFAJAFAJ",
   "AFAGAFHJAFAJAFAJBFAJAFAJAFAJAFAJAFAGAYBJAFAJAFAHAJAFAJAFCJAFAJAFAJAFAJAFAJAFAJAFAJAFAJAFAJ",
   "AFAJAFAJEFAJEFAJAFAJAFAJAFAJAFAJAFAJAFAJAFAJDFAJAFAJBFAJAFAJAFAJAFAJAFAJAFAJAFAJAFAJACTGDJ",
   "AFAHAGBFAHGMAHCMAHDMAHWKBMBKAbADMACCPFbABXAbAACFHbZVDCHKBHbXKPMBCHVBNJCFMRHFVCHAVAHBMANJHb",
   "BMHVBHWMKKBCKVAHbCCCMCKAHbUMAKBMDKBMBKCVMCAGANJCDVBHEMAGAHINJHECAHbOMFKBMBKBMBCIHCMAHHMAKA",
   "CBNJCBVDHPGAHFbACHAKAMAKAHbXMAHAMCHBMBHEMBHAMAHACXHBGAVBHKKAMBKBVBHAGBKAMACJHFCBHFCBHFCIHG",
   "CAHGCAFbQYAGDFIGAYBCDFdBHbIKBMAKBMAKBVAKAMACBNJCFHqnRCLHWCDHbWCDEdaTDjmDHoBCBHeBCbLFGCLFEC",
   "EHAMAHJZAHMCAHECAHACAHBCAHBCAHeDYQbAPHnYSAWAbAPHcLbABHcBbAHCbFHLXAbACMPVGWASAVACFMPVARBQBW",
   "ASAWASAWASAWASAWASAWASAWASAWASAVBWASAVDQCVCCAVDRAWASAWASAWASAVCZARAZCCAVAXAVBCDHECAHfECBBA",
   "CAVCXAVCWASAVAZAVARAVBNJVBZCVBJZWAVASAYAQAYAFZWAZASAZAWASAVAWASAVBHJGAHbSGBHbECCHFCBHFCBHF",
   "CBHCCCXBZAYAbAAXBCAbAAZDbABCJBCbABCBHLCAHZCAHSCAHBCAHOCBHNCbHHeSCEVCCDPbSCCbAIOcAPDbAQPBbA",
   "CCAbAMCCbAACbUbAbSMACeZHbCCCHbWCOMAPbACDHbFPDCIHTOAHHOACEHbLMECEHbDCAVAHbJCDHHVAOECbPJbNFb",
   "NHcZCBNJCFJbJCDFbJCDHbNCHHbZCKVAJKCAJOCAJGCAJBCAFKCAFOCAFGCAFBCCHbZCLHlYCIHVCJHHCXGFCAGbPC",
   "AGICcQHFCBHACAHbRCAHBCCHACBHWCAVAPHHWbABPGHbECHPICbVHSCAHBCEPEHVPFCCVAHZCEVAHZCbLHcDCDPBHB",
   "PPCBPbTHAMCCAMBCEMDHDCAHCCAHbCCBMCCDMAPICGVICGHbCPBVAHbCPCCbFHHbAAHbBMBCDPEVGCIHcBCCVGHVCB",
   "PHHSCEPHHRCGVDCLPGCdBHcUCcCJbYCMFbYCGPFHbJMDCHNJCFNJHDGAHAJVCCMERAGAFVCHZBChZPbECAHbPCAMBR",
   "ACBHBCPHCGAHBCHVAbAHCbGMFHbCPJHACHHVMKPDVECVHRMDVDCbLHUPGCTHWCIKAMAKAHcAMOVGCDPTNJMAHBMBHA",
   "CIMCKAHbSKCMDKBMBVBBAVDMACJBACBHYCGNJCFMCHbJMEKAMHCANJVDHAKBHACHHbIMAVBHACIMBKAHbVKCMIKBHD",
   "VDMDVAKAMANJHAVAHAVCCAPTCKHRCAHYKCMCKBMAKAMBVFMAHBMACcJHGCAHACAHDCAHOCAHJVACFHbUMAKCMHCENJ",
   "CFMBKBCAHHCBHBCBHVCAHGCAHBCAHECAMBHAKBMAKDCBKBCBKCCBHACFKACEHEKBCBMGCCMECKHJCAHACBHACAHbLC",
   "AHAKCMFCAKACBKACAKDCAKBMAKAMAHAMAHAVBCAVBCHMBCbCHcAKCMHKBMCKAMAHDVENJVBCAVAMAHCCbDHbVKCMFK",
   "AMAKDMBKAMBHBVAHACHNJCgJHbUKCMDCBKDMBKAMBVWHDMBCbHHbVKCMHKBMAKAMBVCHACKNJCFVMCSHbQMAKAMAKB",
   "MFKAMAHAVACFNJCFNTCbBHbACBMAKAMAKBMDKAMECDNJPBVCbAAHGChCHbRKCMIKAMBVACdVJbFFbFNJPICLHHCBHA",
   "CBHHCAHBCAHXKFCAKBCBMBKAMAHAKAHAKAMAVCCINJCcRHHCBHbMKCMDCBMBKDMAHAVAHAKACbAHAMJHbNMFKAHAMD",
   "VHMACHHAMFKBMCHbTMMKAMBVCHAVECMHcUCGVJCdHMAKAMCKAMAKACdJHbGVACNNJCFHICAHbKKAMGCAMFKAMAHAVE",
   "CJNJPSCCVBHbDCBMVCAKAMGKAMBKAMBCcUHGCAHBCAHbLMFCCMACAMBCAMGHAMACHNJCFHFCAHBCAHbFKECAMBCAKB",
   "MAKAMAHACGNJCFHbOGAHBCDNJCjLHSMBKBVBCGMBHAKAHMCAHbHKBMECCKBMAKAMAVMNJMACdGHACOPUbAHXDbAQCM",
   "VAHbjLCdXOeGCAVECKHhNCdxJHdSVBCMHbpFBPMAHFMOCJHfxQCEHwKCkdCHbDMLKCMCNJCcoRHvWCGHbECANJCDVB",
   "HdACANJCFHbDCBMEVACJHbVMGVEbADGDVAbAACJNJCAPGCAHUCEHSCqPGCHbNGBVCNJChPJbFFbFPWVDCEJYCBFYCb",
   "RHcWCDMAHAKcCCGMDGMCcLGBVAGAMACKKBGBOCCIHkxXCbOHbFCdSHeKCmwQGDCAGGCAGBCAHlECOHACbCHCCBHACN",
   "HDCHHpFCdkTHeCCEHMCCHICGHJCBbAAMBVABDCfvFbAjFNJbACCCbAqTCFbAWCObAPZACOMbTCBMWCIbAeLCcHbAjL",
   "CJbAbMCBbAcHKBMCbACKFBHMHbABMGbAbDMDbAcICUbAcNMCbAACeRPTCLPTCLbAdICIPYCfEJZFZJZFGCAFRJZFZJ",
   "ACAJBCBJACBJBCBJDCAJHFDCAFACAFGCAFKJZFZJBCAJDCBJHCAJGCAFZJBCAJDCAJECAJACCJGCAFZJZFZJZFZJZF",
   "ZJZFZJZFZJZFbBCBJYZAFYZAFFJYZAFYZAFFJYZAFYZAFFJYZAFYZAFFJYZAFYZAFFJAFACBNbXbAtRMcCbADMbXbA",
   "HMAbANMAbABVECOMECAMOCbqLFJHAFTCFFFCiEMGCAMQCBMGCAMBCAMECEGcJCbGMACeHHbSCCMGGGCBNJCDHAbAAC",
   "mHHbDMACQHbRMDNJCEXACrVHbAGAMDNJCiFHbDMBHANJCDVAChJHbECAHCMAHBMAHGMBHEMACHHAGACiPHGCAHDCAH",
   "BCAHOCAHhOCBPIMGCbOJbHFbHMGGACDNJCDVBCbeEPcGbAAPCXAPDCcXPbSbAAPOChLHDCAHbACAHBCAHACBHACAHJ",
   "CAHDCAHACAHACFHACDHACAHACAHACAHCCAHBCAHACBHACAHACAHACAHACAHACAHBCAHACBHDCAHGCAHDCAHDCAHACA",
   "HJCAHQCEHCCAHECAHQCbZZBCkJbAbRCDbAdVCLbAOCBbAOCAbAOCAbAbKCJPMbAgECcDbAbCCMbAbRCDbAICGbABCN",
   "bAFCfXbAjQYEbAbcACCbAQCCbAMCCbAiJCFbALCDbAACObALCDbAcDCHbAJCFbAbNCHbAbDCBbALCDbABCNZICbMbA",
   "nFCHbANCBbAMCCbAKCCbAcECAbAACDbAPCBbALCDbAJCGbAfQCAbAdNNJbAACbnOHclfBCbFHgmNCBHioBCBHlbKCO",
   "HxXCdqVHuVCcfXHhhYCEHmoNCbogoCBACbDBdRCeXMjFCdsfNDdsyNCBDdsyNCB"]

def categoryRuns : List (Nat × Nat × Nat) :=
  decodeRuns categoryTable

def ofCategories (names : List String) : CharSet :=
  let wanted := names.filterMap fun name => categoryNames.findIdx? (· == name)
  CharSet.ofRanges ((categoryRuns.filter fun run => wanted.contains run.1).map Prod.snd)

/-- The code points of a category or a group of categories.  Surrogates are no characters, so
their category has no set. -/
def category? (name : String) : Option CharSet :=
  if name == "any" then some CharSet.full
  else if name == "ascii" then some (CharSet.range 0 0x7F)
  else if name == "assigned" then some (ofCategories ["cn"]).complement
  else if name == "cs" || name == "surrogate" then none
  else if categoryNames.contains name then some (ofCategories [name])
  else (categoryGroups.lookup name).map ofCategories

end Verdict.Unicode
