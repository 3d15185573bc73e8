import Verdict.Unicode.Category
import Verdict.Unicode.Script

/-!
# Properties of code points

Binary properties are tables of ranges: the gap from the end of the range before, and the length of
the range less one.
-/

namespace Verdict.Unicode

def propertyTables : List (String × String × List String) :=
  [("asciihexdigit", "ahex",
      ["bWJIFbBF"]),
    ("alphabetic", "alpha",
      ["cNZHZbWALAFAGWCbECrPFLPEIACAdJAbERCBDDCAHACCCACTCdECfIJgJCbLDAHbObONCACBCBCAJbAFDbEKGc",
       "DCGPdXCHFHFCLCDARbVOdWZbGKBFAGXDSUYIKGXCGIAJbPLLEGHcXCPCCFOOSCHDBDVCGCAEDEHDBDBCAJAFBC",
       "ENBLAFCCFFBDVCGCBCBCBFEFBDBFAIDCASFMCCICCCVCGCBCEEICCCBEAQDWDFCCHDBDVCGCBCEEHDBDBKBFBC",
       "EOARBCFECCDEBCACBEBECELFEECCCEAHAbPMCCCWCPEHCCCCJBCCCBDDbDDCHCCCWCJCEEHCCCCJBGCCDOCNMC",
       "CCbODHCCCCCAGDIEXFCCCREXCICADGJFCACHTBOcFGGHAcABCACECXCACSCCDECAHAPDbHAcMHCbJFSFPCbJcQ",
       "cCCADERcLLDDbLCAGADbQCmUCDDGCACDDbOCDDbGCDDGCACDDOCcECDDcObMPRdHDFExVDQCZGcWEKITMUNTNM",
       "CCCBNbZDSPAFAcQdKIbQGcRLbECLFIYbDDEMbRFZcDbBFcKDTbZAYBMCbYbZCOCHcAbPDDLbRCKPcCXCLbJDKG",
       "bQDCbQDCFCBEAGhJUbHMkRDFDbLDFDHCACACACbEDcACGCAECCGEDDFFMGCCGeNAOARMdYAFADJCAEEHACACAC",
       "DCKDDGEFASbObfIbZcrViUHDEBNbLCAGADcDIARWKGCGCGCGCGCGCGCGCbFbWAsCCbAIIEDEFdHHCCdLCDGbQC",
       "dPSbFbXPtTjtNcNbguEcQbTDkIEPLBVbUGHEeIbOIDdYDdDVUCbGZbZNcPCAbTFEACCLbGGbIObCEbYCLQARPL",
       "ECcCKNTWEcQCACAZCDPDDMFDFDFKGCGCbQCNHeSWqnRNWFbWmnDoBDeBbNGNEGLCMCECACBCBCeDbInYTcLDcB",
       "bPLeNECfEbLZHZMdKEFDFDFDCbKLCZCSCBCODNbJeScScAkIbCEbWbWbFObDGbQGbDDbJFHCEbRgBTbJFbJFbN",
       "JbZNKCOCGCBCKCOCGCBEbZNlYKVLHZFCbPCIcSFDACbRCBEADWLWKbEcOSCBLVLZHZbNcDHBcNDCBGHCCCbCbR",
       "bCEbCbKHCbBbCcBLVLSOReHcUcEbYObYObNbJbBEAGWjRbPCBEBRFbZCEbCLAJVbRRbVUbCWKcRbSELcEKAOYY",
       "bYSDJbIEAKcLCDKBLACAbKRCbHDAHDcLGCACDCOCJIcEYDCHDBDVCGCBCEEHDBDBEAHAGGbDJCADACbLCJCADA",
       "CDCBEACAbTcNCCCDVCbFcNDBCAhDcBDGbAFbJcKCAEAcIcBDAcUbADNWGhEcEeAcLbGHDADHCBCbDCBDBDDdQH",
       "DbTDFCACBbCbYDJScTGATcUeAHdLbGbGICbSCGCAbYbDDVCNcWGCBCbREACBCCCADBZFCBCbKCBCDCAYbRkBWK",
       "QCbOECeIAdCbjLdZeGShNdxLdSQbpFSFbAfxQGwKkdEbUcpEvWIbESdASbDTbVRDbGUGSqRbSiEcLbHYDYbTcW",
       "FcEIQcNBCANGKkxXbQbFdUeKmwSDCGCBClEQAbECDAPDJpFdkVeCGMEIIJFAiwGdGCcSCBDADBDDCLCACGCcMC",
       "DDHCGCbBCDCECAEGCnBDYCYCbECYCbECYCbECYCbECYCHcsZbEHFiGGCQDGCBCEGcJbIAeJbSLGRAmKbDTbRsR",
       "bBiVbDDAiAbECVJBiRGCDCBCOChOcIcPEAEAbuJDCbACBCADACJCDCACAHAFACACACCCBCADACACACACACBCAD",
       "DCGCDCDCACJCQGCCECQyFZHZHZfmLclfBbHgmNDioBDlbKQxXdqXuVcfZhhYGmoN"]),
    ("bidicontrol", "bidic",
      ["ciEAjvMBbBEcED"]),
    ("bidimirrored", "bidim",
      ["bOBTACAbDACAbEACAbUAQAfmTDcuOBdqRBLBcDBPBgWAhLDEFEAEBEDCDCACAFIGACRGDKBCACHCbFDDGAKBDS",
       "GBKEDBFXDPJDVBIBbpUNcXADDCBCCGDGCENpOVDFCNJAIFEAFECBDEFACCDBLFDBNSCDDACADACDGBHCZBMBFD",
       "CBDBFbQDHCbNGACAEEGCFAEECAjXAtWDEBCBPBDJbSHqMJDHdacSFGBgHBTACAbDACAbEACACBCBddpOAcGAcG",
       "AcGAcGA"]),
    ("caseignorable", "ci",
      ["bNAHAMAbKACAcUAFACAFADBtKhJFBFAKBCAjSGiAAGAbYbSCACBCBCAbTAMFLKCAbKALURAdYHCJCDbIACAbFb",
       "AdOKcHKFADAZXbSCbTAIBGIbQcFcEACAFHFAEGLBOAQAcHAFDJAVBbBADBcGAFBFBDCEAbFBEAMBcGAFECBFAV",
       "BXFCAcHADACDJAIBMBbFAcKANAbZAEAcEACCGCCDIBMBbEAcHADAHAGBVBbDBcGBFDJAVBbEAcVAICCAdNADGM",
       "IdVADIKACGcWBbCACACAcENCECBGKCbJKAdZDCFCBDBbABFCRDOADBHAQAdRAxLCbkLCbEBbFBbFBcNBCGJADK",
       "EAGAbUEcAAcOBbJAePCFBKAHCiMBDAcHACGCACADHHJDAbOAJbTDLVDbXACECAGAbPINBbHDDBCCcFACBEACCc",
       "HHDBcNFdFCCMCGFAHAEBbZcKOAbJdWrEACCMCOCOCOBNEJBLADADEbYECJCAOARMcAbGejSBeKCeWAQAdTbFbW",
       "AsCAbLDEEGAdQFdQCbqbVAbwDFkLAdVDCJCAbDDdDBPbHdBAYCdZDEBJAEAFAbABGAfWBbBROAbNHbAKbVCbXA",
       "DDDBSAWBcPFDBDBNAJAbKAMAcAACCDBGBCAbCAPBGBCAdXEKCeSADAFAbdzTAfSQwCPEANPbJADAgOAIAHAMAb",
       "KACAbWAbUBcQAWCtUAiTAfUEbnQFCbPCIwLCCBGDbPCFAgKBwCDbNAbBECAmEBZAcBFcTKbYDeUAcDObQADBLC",
       "bYDDBDAFALAbZCbLECHcLANBcBILDDAdSCDACBHADAgCAEHWBcGBEAbMGEEcTFOACACAPBdIHDCCAYAdHFCAFB",
       "CBjFDHBCBbCBdIHDACBeDACADFCAdYACADDCEkAICBjXBCAFAfPDDBFAbHJbPFDDJAKFDCbVMCBhRACCCAhUGC",
       "FCAdFVDGCBCBeTFEACBCGCAcVBEACAcOAkWBMBcBEGACAYAhxEQHOqyZLECdsBEcIGKDtPCbPBsPAcMQcNBCBO",
       "BygBDCGCBeuHBCDgyVbTDWuZCKPDGbFDfTCcyEcCFbXJAPAXECOcaJGCQDGCBCEGcJbIAgFNoFAcKDtOEjVBjK",
       "ADAIBGAKArXGeGHebGEbsxxQAbFdReZjF"]),
    ("cased", "cased",
      ["cNZHZbWALAFAGWCbEChMCDFhZDbIIBbFEdTAbRDDBDDCAHACCCACTCdECfIJgJCbLKbOefGbLCAGADbQCDzXdH",
       "DFdfVKGbQDCcNhJcNkRDFDbLDFDHCACACACbEDcACGCAECCGEDDFFMGCCGeNAOARMdYAFADJCAEEHACACACDCF",
       "FADDGEFASbFEBbfMbZcrViUHDEBNbLCAGAbtwDbTTbDfDdXEDCcYVFCCbfQbQCNHdBbeaJGNEbnUZHZbtUdBdT",
       "bJFbJeNKCOCGCBCKCOCGCBrKADCCbPCIbvAbYObYdQVLVefJcLbgiRcLbHYDYbmiFdGCcSCBDADBDDCLCACGCc",
       "MCDDHCGCbBCDCECAEGCnBDYCYCbECYCbECYCbECYCbECYCHcsZJCTHFkCcJdgLcPdaBZHZHZ"]),
    ("changeswhencasefolded", "cwcf",
      ["cNZdNALWCHbHACACACACACACACACACACACACACACACACACACACACACACACACACACACADACACACACACACACACBC",
       "ACACACACACACACACACACACACACACACACACACACACACACBCACACACBCACBCCDDCBCCEBCBCACACBCADACBCCCAC",
       "BEAIBCBCBCACACACACACACACADACACACACACACACACADBCACCCACACACACACACACACACACACACACACACACACAC",
       "ACACACACACACACACACACAIBCBDACDCACACACAjNAbRACAEAJAHACCCACBCQCIXANCEBCACACACACACACACACAC",
       "ACACACBDBCACBDbYbXACACACACACACACACACACACACACACACACAKACACACACACACACACACACACACACACACACAC",
       "ACACACACACACACACACACBCACACACACACADACACACACACACACACACACACACACACACACACACACACACACACACACAC",
       "ACACACACACACACACACACACACACACACACACACACACACADbLbXAefHbLCAGAbfFFdfVJHbQDCmJACACACACACACA",
       "CACACACACACACACACACACACACACACACACACACACACACACACACACACACACACACACACACACACACACACACACACACA",
       "CACACACACACACACACACACACACACACACACACACACACACACACACAGBDACACACACACACACACACACACACACACACACA",
       "CACACACACACACACACACACACACACACACACACACACACACACACACACACACACACACACAKHJFLHJHJFMACACACAJHRb",
       "VDCDFGCDFMDNEGCDFlMAEBHAbUPUAbfNZcsVbVbXACCDACACACDCADAJCCACACACACACACACACACACACACACAC",
       "ACACACACACACACACACACACACACACACACACACACACACACACACACACACACACACACACACACAJACAFAbtyKACACACA",
       "CACACACACACACACACACACACACACACACACACACAUACACACACACACACACACACACACACAfGACACACACACACAEACAC",
       "ACACACACACACACACACACACACACACACACACACACACACACACACACACACACALACACBCACACACAFACADACAEACACAC",
       "ACACACACACACACECECACACACACACACACDCACBCACACACACACACACAZAbiHdBbeaJGNEbnUZbvAbNfHbJgBKCOC",
       "GCBcqDbYgCVegPbFbgjXbFcNYbuiAbH"]),
    ("changeswhencasemapped", "cwcm",
      ["cNZHZcHALWCbECcLCdFCbBDNDBCAFdOCRHbACBCACBEBCDCEDACBDAIADACBEFGALBgLAbRDDBECCAHACCCACT",
       "CbUEbGCECfCJgJCbLLbMefHbLCAGADbQDCzXdHDFdfVKGbQDChEAEARAeKfZDACeNDFDbLDFDHCACACACbEDcA",
       "CGCAECCGEDDFFMGCCGlMAEBHAbCASbFEBbfMbZcrVeICBCBIdXIDEBNbLCAGAbtwDbTTbBfFNDcJKOECDECYCb",
       "SZBbhDAbDdBbeaJGNEbnUZHZbtUdBdTbJFbJeNKCOCGCBCKCOCGCBcoQbYObYdQVLVefJcLbgiRcLbHYDYbugZ",
       "cP"]),
    ("changeswhenlowercased", "cwl",
      ["cNZdYWCGbIACACACACACACACACACACACACACACACACACACACACACACACACACACACADACACACACACACACADACAC",
       "ACACACACACACACACACACACACACACACACACACACACACBCACAEBCACBCCDDCBCCEBCBCACACBCADACBCCCACBEAI",
       "BCBCBCACACACACACACACADACACACACACACACACADBCACCCACACACACACACACACACACACACACACACACACACACAC",
       "ACACACACACACACACAIBCBDACDCACACACAlEACAEAJAHACCCACBCQCIbKAJACACACACACACACACACACACAGADAC",
       "BDbYbXACACACACACACACACACACACACACACACACAKACACACACACACACACACACACACACACACACACACACACACACAC",
       "ACACACACBCACACACACACADACACACACACACACACACACACACACACACACACACACACACACACACACACACACACACACAC",
       "ACACACACACACACACACACACACACACACADbLehEbLCAGAbbVdHdgMAHbQDCmJACACACACACACACACACACACACACA",
       "CACACACACACACACACACACACACACACACACACACACACACACACACACACACACACACACACACACACACACACACACACACA",
       "CACACACACACACACACACACACACACACACACACAKACACACACACACACACACACACACACACACACACACACACACACACACA",
       "CACACACACACACACACACACACACACACACACACACACACACACACAKHJFLHJHJFMACACACAJHZHJHJHJEMEMDNEMElM",
       "AEBHAbUPUAbfNZcsVbVbXACCDACACACDCADAJCCACACACACACACACACACACACACACACACACACACACACACACACA",
       "CACACACACACACACACACACACACACACACACACACACACACACACACAJACAFAbtyKACACACACACACACACACACACACAC",
       "ACACACACACACACACACAUACACACACACACACACACACACACACAfGACACACACACACAEACACACACACACACACACACACA",
       "CACACACACACACACACACACACACACACACACACACALACACBCACACACAFACADACAEACACACACACACACACACACECECA",
       "CACACACACACACDCACBCACACACACACACACAZAbhaIZbvAbNfHbJgBKCOCGCBcqDbYgCVegPbFbgjXbFcNYbuiAb",
       "H"]),
    ("changeswhentitlecased", "cwt",
      ["dTZcHAbQXCHCACACACACACACACACACACACACACACACACACACACACACACACACACACACADACACACACACACACBCAC",
       "ACACACACACACACACACACACACACACACACACACACACACADACACCDACADAEAGADAECDADACACADAFADAEACADAEAC",
       "AFACBCBCACACACACACACACACBCACACACACACACACACCCACAEACACACACACACACACACACACACACACACACACACAC",
       "AEACACACACACACACACAJADBCAFACACACACFCBCACBEBCDCEDACBDAIADACBEFGALBgLAbSACAEAECTAbCbICBE",
       "CCACACACACACACACACACACACECADADAcBbVCACACACACACACACACACACACACACACACACAKACACACACACACACAC",
       "ACACACACACACACACACACACACACACACACACACADACACACACACACBCACACACACACACACACACACACACACACACACAC",
       "ACACACACACACACACACACACACACACACACACACACACACACACACACACACACACACAbYbMfmFFdfVICAjFAEARAeLAC",
       "ACACACACACACACACACACACACACACACACACACACACACACACACACACACACACACACACACACACACACACACACACACAC",
       "ACACACACACACACACACACACACACACACACACACACACACACACACACACACACACACGGACACACACACACACACACACACAC",
       "ACACACACACACACACACACACACACACACACACACACACACACACACACACACACACACACACACACACIJFLHJHJFLHJHJND",
       "HJHJHJECBHAECCBJDDBJHLCCBnFAbIPFAbgMZctRbVCAEBCACACAHADALACACACACACACACACACACACACACACA",
       "CACACACACACACACACACACACACACACACACACACACACACACACACACACACACACACACACACACAJACAFANbLCAGAbtw",
       "EACACACACACACACACACACACACACACACACACACACACACACAUACACACACACACACACACACACACACAfGACACACACAC",
       "ACAEACACACACACACACACACACACACACACACACACACACACACACACACACACACACACACALACADACACACACAFAFACBD",
       "ACACACACACACACACACAMACACACACACACACAFACADACACACACACACACAbBAbhDAbDdBbeaJGNEbpAZbvIbNfHbJ",
       "gAKCOCGCBcrCbYeWVegPbFbgjXbFcIYbuiHbH"]),
    ("changeswhenuppercased", "cwu",
      ["dTZcHAbQXCHCACACACACACACACACACACACACACACACACACACACACACACACACACACACADACACACACACACACBCAC",
       "ACACACACACACACACACACACACACACACACACACACACACADACACCDACADAEAGADAECDADACACADAFADAEACADAEAC",
       "AGBCBCBCACACACACACACACBCACACACACACACACACBCBCAEACACACACACACACACACACACACACACACACACACACAE",
       "ACACACACACACACACAJADBCAFACACACACFCBCACBEBCDCEDACBDAIADACBEFGALBgLAbSACAEAECTAbCbICBECC",
       "ACACACACACACACACACACACECADADAcBbVCACACACACACACACACACACACACACACACACAKACACACACACACACACAC",
       "ACACACACACACACACACACACACACACACACACADACACACACACACBCACACACACACACACACACACACACACACACACACAC",
       "ACACACACACACACACACACACACACACACACACACACACACACACACACACACACACAbYbMehDbQDCbdHFdfVICAjFAEAR",
       "AeLACACACACACACACACACACACACACACACACACACACACACACACACACACACACACACACACACACACACACACACACACA",
       "CACACACACACACACACACACACACACACACACACACACACACACACACACACACACACACACACGGACACACACACACACACACA",
       "CACACACACACACACACACACACACACACACACACACACACACACACACACACACACACACACACACACACACACIJFLHJHJFLH",
       "JHJNDcACBFACAECCBFAEDDBJHLCCBFAnAAbIPFAbgMZctRbVCAEBCACACAHADALACACACACACACACACACACACA",
       "CACACACACACACACACACACACACACACACACACACACACACACACACACACACACACACACACACACACACACAJACAFANbLC",
       "AGAbtwEACACACACACACACACACACACACACACACACACACACACACACAUACACACACACACACACACACACACACAfGACAC",
       "ACACACACAEACACACACACACACACACACACACACACACACACACACACACACACACACACACACACACALACADACACACACAF",
       "AFACBDACACACACACACACACACAMACACACACACACACAFACADACACACACACACACAbBAbhDAbDdBbeaJGNEbpAZbvI",
       "bNfHbJgAKCOCGCBcrCbYeWVegPbFbgjXbFcIYbuiHbH"]),
    ("dash", "dash",
      ["bTAcaVAcAAfkKAbnQAdbEFcKAbOAQApBAeoJADAbGBFAbDArFAUAeIAczwBBbMALAgOAflPAmHA"]),
    ("defaultignorablecodepoint", "di",
      ["gRAzYAbbPAegXBckIBdIEdaQEbBEbYPgkZAczmQPjGAgFAdCIctlODhwYHbtkzMgbN"]),
    ("deprecated", "dep",
      ["mRAbyWAdkUACAdcKBdiKFbaWBbzryLA"]),
    ("diacritic", "dia",
      ["dQACAcUAHAFADBtKgCCHGFSBFAKBjUEiCAcEbSCACBCBCAfCHFBfFBFBECcQbAdOKcHKbJBeXHbQJRbBcKARAE",
       "DbDAcXARAeHARAeHARAbWCcJARAIAeQAeHARAeHARAeGBRAeVAeIANFCAeEAOEcYBbCACACAFBcPCCBcLAeJAC",
       "BbPBFEbAGCALBbbECbkNBbFAfTKKAnKClHAVHDAbXODKEODLcVAQAbNIcDBcHAMBcPBcNFdFYFAHADCbZcKbXb",
       "JGLbMKrEACCMCOCOCOBexLCmGAtNFeCDdSAbsmLANBCAbDBdFBPbHdZCdZAHBNAbMAfWAbCRcGDbLAdSANAbLA",
       "fUCcODcAAdXEKCeZBbdzTAbdQPkLACAbWAbUBcQAbdLAbtOFCbPCIyOCFAgKBwAFbNAbBEpHADCcTKbYDhLAbQ",
       "AcVBeRBcLAcZAKCeBBgXBdDBRAZGEEdMCCBOBdSAEAeUBjSBeXAePBeMAkKBjZBFAgBAdGATAdEAqGAjZACBdE",
       "AcOAnWBYAhyBOqzQAdsBEcIGvTBvBQdDBygDDCGCBltIbTDWuZCEFJHDGbFDfmXcJhNGoMAcKDbdNBbcJGeGCC",
       "C"]),
    ("emoji", "emoji",
      ["bJAHAGJeIAFAlySANAiJAXAdNFQBoEBNAgLAbAKFChSAiYBLAKAcHDCEKADADBDAFADACBDAEAEBJCGACAGLMB",
       "DACBCATADBTFCACBEBGADBFBMBGBDAGBCACBVBGFCDDAFADADFCADACACAHAEAHALBQADAFACAFCCAMBbXCKAP",
       "APAoJBrWCUBcAAFAbvVANAxEACAgmrRAhVAgFBNBPADJcYZCBYAVADIWBgTbHDeHDBCCDdEDCCkCCcKMFCXIBD",
       "HNADDDAFBOBDAJBKAGCNCJCDACAFAHAEAHdHbXcRGHDDEJEACBEADJiULFAkYbUCJChCeJMEKEcECAFPDLFJ"]),
    ("emojicomponent", "ecomp",
      ["bJAHAGJmbKAiGAdftSAdoiXZtOEceBDbsvuRdR"]),
    ("emojimodifier", "emod",
      ["hhiXE"]),
    ("emojimodifierbase", "ebase",
      ["olHAiMARDgsjWAcJCDADCeOBDKWSEAFCCCIACAZAhUBFAWAFBgTCEEdGARCKAMAwEADAJHHAKJDCcFAcKBCBCA",
       "SCCMiWCbRI"]),
    ("emojipresentation", "epres",
      ["nhQBhYDEADAuCBWBbZLbSAUAOAJBSBGBJAGAWAIBCAFADAIAFBbDAbKACAFCCAcKCZAPAbhCBcAAFAgplFAhVA",
       "hJADJcYZCAZAVADECCWBgTbGNICcRCVNbQFENQEAEcSCAChEDcKODCXTAbBBOAdJdGbXcRHAECDDEDMBIIiULF",
       "AkYbUCJChCeJMEKEcECAFPDLFJ"]),
    ("extendedpictographic", "extpict",
      ["gNAFAlySANAiJAXAdNFQBoEBNAgLAbAKFChSAiYBLAKAcHDCEKADADBDAFADACBDAEAEBJCGACAGLMBDACBCAT",
       "ADBTFCACBEBGADBFBMBGBDAGBCACBVBGFCDDAFADADFCADACACAHAEAHALBQADAFACAFCCAMBbXCKAPAPAoJBr",
       "WCUBcAAFAbvVANAxEACAgmrRAbODdXLQBQAPBbMJeJBNBPADJUcDbCOLAVADICDKWHhFDeHDBCCDdEDCCDGjTC",
       "cKMFCXIBDHNADDDAFBOBDAJBKAGCNCJCDACAFAHAEAHdHbXcRGHDQEACFDMiLbLNDcFHLFbPHbFBNDDNKbMNbU",
       "CJChCdLHPfPjXbnH"]),
    ("extender", "ext",
      ["hBAuRBbhVArAAyHAfIAdMAbcZAeYAdnGAcFAxOApJAcRAhkKAbSEeABdQCbqbVAcgTAblBAXAfIAeFAWBbfzWA",
       "dbLBcfCAbCAFAbvCAlIAeNBtFCbvKAbgBAbdiFBbtLBCAPBbqxLBbuGAbgVC"]),
    ("graphemebase", "grbase",
      ["bGdQbIMCwVeJHDFFGCACTCiPIgJCbLDbXDCbVACADADAKbAFFSJMACbTWPCdWJAHBDAFbFDACbDbEdKMAPbQKG",
       "EXFAKAEAIOCYGACKGbFRbPcGcCCACDJDCCIJDbCCBCHDBDVCGCAEDEACBHBDBCAOBCCFXGACFFBDVCGCBCBCBF",
       "CZDCAIJDCCANACICCCVCGCBCEEDJACBEAQBFLIAJBCHDBDVCGCBCEEADAHBDBQBCCFRMACFECCDEBCACBEBECE",
       "LGACBECCCEAWUHCCHCCCWCPEAEDUCCBDBFJIJCKCCCWCJCEEBDACBYCCBFJCCPKCCCbODACBGCCCCBFCCJFZDB",
       "CREXCICADGKBHGIJDCNbVCBMHJMbMBCACECXCACJCBKADECAKJDDbHXDbACACACNCbJTAGADEbYHCFCMbMbSFA",
       "HADBDYDDEPFMCBDFCOCbNCAGADoMCDDGCACDDbOCDDbGCDDGCACDDOCcECDDcOGbCEZHdHDFDzSEdKIROSEBKR",
       "PMCCQbZDAIHCBMIEJHJHKGJHdKIEDbHCAGcRLbEFDDCFBCFIAEbPDEMbRFZHKEcEDBEcDCAKACBJFOJHJHNdJb",
       "VLDEHCbCKLDbFFBHcDCADCCAObVJBGOEcJGbQDKMAOAIDCFCCDAGhJcNkRDFDbLDFDHCACACACbEDcACOCNDFC",
       "SDCCICKGXIbWRBDbACMEbHcLfJFzPXKWcrRDoMEBGbSCAGADcDIBQWKGCGCGCGCGCGCGCGbIdPbJZCdKNiFbBc",
       "FHPCdHFdWGbQCdPCdHKbVCbriQEcCKnJVbUFALbFDdBDFJiMVQCCCDCYDEFJHcDJcPLLZMCbLJYMANbDHbVCBF",
       "BDBCMCKFGCYCbOHBDBMCCHCADJDbFCbYCAEBDEDACAZQDHMFDFDFKGCGCcHFeMCBCDEJHqnRNWFbWmnDoBDeBb",
       "NGNEGACXCECACBCBCyZbHPRJXbICSCDFECfEFgADbEEFDFDFDCEGCGOBDLCZCSCBCODNbJeSGCFbSEdJCMEAbW",
       "bSfCbCEbWRbAFbJKbDGbLLbDCbKFNbRgBDJHbJFbJFbNJbZMLCOCGCBCKCOCGCBEbZNlYKVLHZFCbPCIcSFDAC",
       "bRCBEADWCcTJIbXSCBGbGEbAGbAbNcDFTDbUQDCCCbCLIIIIcLbHbKHLKcBEbCDbAGZIDNGdDcUcEbYObYIbPN",
       "JHbLJXJBiBbECbPEADBRFJIbObNJVMIXRFDbNbBVWKACcBQGFbDCBDANbWFBDBCDPYIJKbJGAKRJbICCMbZKAC",
       "HFBCPCTMRCbBEBFFCBcMGCACDCOCKHbUCCOJJBCHDBDVCGCBCEEACACDDBDBEANGbDJCADACbLCACBQACBEACC",
       "CBbOcDJBEACUCACCbFbVCBHACBCADADDJJgLbUCBHDDADbAbLbYJBCADDMJHMUbQCACBJBHJHTbDbAEACBFAKW",
       "hEbUKADAdXdENHDADHCBCXCECBHDCCKJcTHDbPJDCDbCALbNHBFHKAHBEbTOADIOcUIJdKAEACAdLbHPJHICbL",
       "PACFLbCEbFbAAIADAcYGCBCbLWAKJHFCBCbKFBCACAIJHbRFJjNSDDKOCbJJBEWdJAQbXObjMdZeGCEMhNdxLd",
       "UObpFSFbAfxQGwKkdEbDNCEJcoTvWIbECJFdCCJHbDIALbVIOLJCGCUGSqRcFhRdMGYDYbTcWGcDMMcNDPEKkx",
       "XbQbFdUeKmwSDCGCBClEQAbECDAPDJpFdkVeCGMEIIJDADAfvLjSEqTHWQQdSeLcJjLLbMDcHGCXBIbDFcIWcN",
       "EAeTTNTNdIKYfGdGCcSCBDADBDDCLCACGCcMCDDHCGCbBCDCECAEGCnBDlFDvPcEDbZHCNCGbrXbEHFkCcJfRb",
       "SLGDJFBmJbDTbRFJGArXbBFJiHbDDKFAhLbECCCBCGDEKBiRGCDCBCOChODIbXcPIAFJFBbeGcPcZcIhNDCbAC",
       "BCADACJCDCACAHAFACACACCCBCADACACACACACBCADDCGCDCDCACJCQGCCECQcBBkLbRFdVNODOCOCbKLgRcFb",
       "CObRFIIBPFfZblWEQEMEiJHLFAQLFcDJJHbNJbDDLFBPIbOnFJNDMEKEcECAFPDLFJIfQCdYbnQclfBbHgmNDi",
       "oBDlbKQxXdqXuVcfZhhYGmoN"]),
    ("graphemeextend", "grext",
      ["bdOeHkQGkEbSCACBCBCAcVKbXURAdYGDFDBCDbKAbFbAdOKcHIKAZDCICCCEbSCcIIbRXCbFcEACAFHFAEGLBb",
       "EAcHACADDJAKALBbBADBcGAFBFBDCEAbFBEAMBcGAFECBFAVBXFCAcHACBCDJAICLBbFAcIACANAKAbPAEAcEA",
       "CCGCCDIBMBbEAcHADBCAECCDIBMBbDBcGBCADDJAKALBbEAcVAFADCCAJAdEADGNHdVADIMGcWBbCACACAcENC",
       "ECBGKCbJKAdZDCFCBDBbABFCRDOADBHAQAbbCCbkLDbDCbEBbFBcNBCGJADKKAbUCCAeOBbJAePCFBKAHCiMBD",
       "AcHACGCACADHHJDAbXbTDLVDbXJFCbNINBbHDDFcFACBEACEcFHDBfXCCMCGFAHAEBhRcLuFAhObGeoDCfMAdT",
       "bFvJFeCBbsqFDCJbHBdDBkNAEAFAbABGAfWBbBROAbNHbAKCAbTCbXADDDBDAbLAcQFDBDBNAJAbWAcAACCDBG",
       "BCAbRBJAjFADAFAbdzTAbcKPRPoDBxIAiTAfUEcmHCCBGDbPCFAgKBwCDcOEmGBdAFcTKbYDeUAcDObQADBLCb",
       "YDDBIAcKCbLECHcLANBcBICAJDDAdSCDDHADAgCAEHWBcGBCACANAKAPGEEcQADFCADACCFCCAPBdIHDCCAYAd",
       "EADFCADACBCBjCADDHBCBbCBdIHDACBeDACADHdYACADDCEkAICBjMALDFAfPDDBFAbHJbPFDDJAKFDCbVMCBh",
       "RACCCAhUGCFCAdFVDGCBCBeTFEACBCGCAcVBEACAnKBMBcBEGCYAhxUAHOqyZLECdsBEcIGboJAcMDdEAMBbda",
       "YBgzAbTDWuXEEFJHDGbFDfTCcyEcCFbXJAPAXECOcaJGCQDGCBCEdXAgFGoMAcKDtPDjVBjKADAIBGAsHGeGGb",
       "tcaGdReZjF"]),
    ("hexdigit", "hex",
      ["bWJIFbBFdslMJIFbBF"]),
    ("idsbinaryoperator", "idsb",
      ["seABDJtEA"]),
    ("idstrinaryoperator", "idst",
      ["seCB"]),
    ("idcontinue", "idc",
      ["bWJIZFACZbWALACADAGWCbECrPFLPEIACASeMCBDDCAHECACTCdECfICEDgJCbLDAHbOJbSCACBCBCAJbAFDbE",
       "KGcVFdXCHDJCSDARcGDdWPcBFADADbTTbBFKGXCGIcWCeYDJCSCHDBDVCGCAEDDIDBDDJAFBCEDLLACADCCFFB",
       "DVCGCBCBCBDACEFBDCEAIDCAIPMCCICCCVCGCBCEDJCCCCDAQDDJKGCCCHDBDVCGCBCEDIDBDCICFBCEDJCARB",
       "CFECCDEBCACBEBECELFEECCDDAHAPJRMCCCWCPDICCCDIBCCCBDDDJRDCHCCCWCJCEDICCCDIBGCCDDJCCNMCC",
       "CbYCCCEGDIEDJLFCCCREXCICADGEAFFCACHHJDBOcFGOCJbOBCACECXCACWDECACGCJDDbHAYBHJMACACAFJCb",
       "JFTCRCbJKAcGcVHcZDbLCAGADbQCmUCDDGCACDDbOCDDbGCDDGCACDDOCcECDDcODCKIPPRdHDFExVDQCZGcWE",
       "KIVKVMTNMCCCBNdFEAFBDJbICCKHdKIbQGcRLbECLFLLbNDEMbRFZHKbMbBFcKCbCDKHJOAJNCbEDLVcYEJSIN",
       "eLNcDJJEbWDKGbQDCRCCbMGuNDFDbLDFDHCACACACbEDcACGCAECCGEDDFFMGCCGQBbYBUAbDAOARMcAMFAELS",
       "AFADJCADFHACACACPDDGEFASbOdzCiUHINbLCAGADcDIAQXKGCGCGCGCGCGCGCGCbFtYCbAOCEDEFdHDGCdQGb",
       "QCdPSbFbXPtTjtNcNbguEcQbTDkIEbBVbVFJCeKbMIDdYDdDVcCFAUbZNcRLJHXEACbWDbJNbCEcMPKHbECcCK",
       "NDJHWEcUZCDPDELFDFDFKGCGCbQCNHeSCBDJHqnRNWFbWmnDoBDeBbNGNEGLCMCECACBCBCeDbInYTcLDcBbPL",
       "FPRPEBZCbHECfEUJIZFACZLdLEFDFDFDCbKLCZCSCBCODNbJeScScAfHAfBbCEbWQAbGbFObDGbQGbDDbJFHCE",
       "bRgBDJHbJFbJFbNJbZNKCOCGCBCKCOCGCBEbZNlYKVLHZFCbPCIcSFDACbRCBEADWLWKbEcOSCBLVLZHZbNcDH",
       "BcNDCBGHCCCbCDCFAbHbCEbCbKHCbDbAcBLVLSOReHcUcEbYObYObNJJHbLEECWjRbPCBEBRFbZbILAJbGbGVb",
       "RUbCWKcSbGPKcHIAOYIJHcACJFDJbJDAKcQFDCMCAbKRCbKHDcLGCACDCOCJIcGGJHDCHDBDVCGCBCECJDBDCD",
       "AHAGGDGEEMJCADACbLCJCADACDCHOBbEcWGJFDbFcRCAJJgLcBDIYFbJcMEAMJbNcEIJHTbDbADOFJHGhEcGdY",
       "cVWHDADHCBCbDCBDINJcTHDbTDHCBbCcKJAJcVEATcUeAHdLbGQJHICbSCIQJZbDDVCNcWGCBCbREACBCIJJHF",
       "CBCbKCBCFIJHbRFJjNWKQCbOEEOKdIAdCbjLdZeGShNdxLdSQbpFRVLfxQGwKkdEcFcoTvWIbECJHdACJHbDDE",
       "McCKDNJKUGSqRbSEJhRcLbHYDYbTcWFcEIQcNBCBMGKkxXbQbFdUeKmwSDCGCBClEQAbECDAPDJpFdkVeCGMEI",
       "IJEBgeSJtZbTDWuXEEFJHDGbFDfTCrCdGCcSCBDADBDDCLCACGCcMCDDHCGCbBCDCECAEGCnBDYCYCbECYCbEC",
       "YCbECYCbECYCHDbXtTcCFbXJAPAXECObqNbEHFiGGCQDGCBCEGcJbIAeJbSENDJFAmKbEScFsDbPiHbQhQbECV",
       "JBiRGCDCBCOChOMGbQcXFJbtVDCbACBCADACJCDCACAHAFACACACCCBCADACACACACACBCADDCGCDCDCACJCQG",
       "CCECQfaBJbnRclfBbHgmNDioBDlbKQxXdqXuVcfZhhYGmoNbogxZjF"]),
    ("idstart", "ids",
      ["cNZHZbWALAFAGWCbECrPFLPEIACAfAECBDDCAHACCCACTCdECfIJgJCbLDAHbOcUbAFDbUbQbKBCdUCAQBIBLC",
       "DARACbDbEdKMAZbGKBFAGVFAKAEAYYIKGXCGRbPcHcBEATAIJQPFHDBDVCGCAEDEARAOBCCPBLAJFFBDVCGCBC",
       "BCBbGDCAUCRICCCVCGCBCEEATAQBYAMHDBDVCGCBCEEAbFBCCQASACFECCDEBCACBEBECELXAcBHCCCWCPEAbB",
       "CCBDBbFAFHCCCWCJCEEAbFCCBQBSICCCbODARAGCJCZFGREXCICADGcHbVCBNGcHBCACECXCACJCBKADECAWDb",
       "HAcMHCbJbCEeMbQVARFFDEAEBICFMNASbLCAGADbQCmUCDDGCACDDbOCDDbGCDDGCACDDOCcECDDcObMPRdHDF",
       "ExVDQCZGcWEKIROSPRPMCCQbZbKAFAcQdKIbOCAGcRLbEbYbDDEMbRFZcDWKcAdFAdQbUSHcDbDOBLbRbBbJbQ",
       "CLbJDKGbQDCbQDCFCBEAGhJcNkRDFDbLDFDHCACACACbEDcACGCAECCGEDDFFMGCCGeNAOARMdYAFADJCADFHA",
       "CACACPDDGEFASbOdzCiUHDEBNbLCAGADcDIARWKGCGCGCGCGCGCGCGvFCbAIIEDEFdHFECdLCDGbQCdPSbFbXP",
       "tTjtNcNbguEcQbTDkIEPLBVbURbEDdBbOIDdYDdDVQCCCDCWbEbZPbXcLFEACBMbBLWbAbCIbUbDARECJLECbO",
       "YCCHVWEAEbXCAEBDEDACAZCDKICNFDFDFKGCGCbQCNHeKbEqnRNWFbWmnDoBDeBbNGNEGACJCMCECACBCBCeDb",
       "InYTcLDcBbPLeNECfEbLZHZMdKEFDFDFDCbKLCZCSCBCODNbJeScScAkIbCEbWbWbFObDGbLLbDDbJFHCEbRgB",
       "TbJFbJFbNJbZNKCOCGCBCKCOCGCBEbZNlYKVLHZFCbPCIcSFDACbRCBEADWLWKbEcOSCBLVLZHZbNcDHBcNAQD",
       "CCCbCbRbCEbCbKHCbBbCcBLVLSOReHcUcEbYObYObJbNbBKWjRbPHBRFcFbCLAJVbRRbVUbCWNcAcGBDAObSbH",
       "YbBbJbEADAJbIEANbVPDWACAbKRCYUBcMGCACDCOCJIbUbNHDBDVCGCBCEEATANEbFJCADACbLCAbAACAbTcAT",
       "DVCbFbVVBCAhDbUbQDbLbVVAcIbQOAcUbAbMGhEbReNcLbGHDADHCBCXQACAdRHDbMRACAbDALbNIAWAMbTUAT",
       "cUhSbGbGICbKSAbYbDeJGCBCbLWAbAFCBCbFPAYbRkBSQACMCbHeVAdCbjLdZeGShNdxLdSQbpFSFbAfxQGwKk",
       "dEbDcpVvWIbESdASbDTbVRDbGUGSqRbSiEcLbHYDYbTcWGAcPMcNBCAPEKkxXbQbFdUeKmwSDCGCBClEQAbECD",
       "APDJpFdkVeCGMEIIJiwLdGCcSCBDADBDDCLCACGCcMCDDHCGCbBCDCECAEGCnBDYCYCbECYCbECYCbECYCbECY",
       "CHcsZbEHFkCcJfRbSLGRAmKbDTbRsRbBiVbDDAiAbECCCBCGDEKBiRGCDCBCOChOcIcPIAbuJDCbACBCADACJC",
       "DCACAHAFACACACCCBCADACACACACACBCADDCGCDCDCACJCQGCCECQgoBclfBbHgmNDioBDlbKQxXdqXuVcfZhh",
       "YGmoN"]),
    ("ideographic", "ideo",
      ["seWBbAIPCblEjtNcNbfbJbhsJoBDeBbsiLAOEKkxXbQbFdUeKnlMpFbdeJclfBbHgmNDioBDlbKQxXdqXuVcfZ",
       "hhYGmoN"]),
    ("joincontrol", "joinc",
      ["mdOB"]),
    ("logicalorderexception", "loe",
      ["fkIEeUEedTCDAccxNBDACB"]),
    ("lowercase", "lower",
      ["dTZbWALAFAbLXCHCACACACACACACACACACACACACACACACACACACACACACACACACACACACBCACACACACACACAC",
       "BCACACACACACACACACACACACACACACACACACACACACACACADACACCDACADAEBFADAECDADACACADACBCADAEAC",
       "ADBDCHADADACACACACACACACACBCACACACACACACACACBDACAEACACACACACACACACACACACACACACACACACAC",
       "ACACACACACACACACACACACGDADBCAFACACACACcQDbIIBbFEdTAbSACAEADDTAbCbICBECCACACACACACACACA",
       "CACACACECADADBcAbVCACACACACACACACACACACACACACACACACAKACACACACACACACACACACACACACACACACA",
       "CACACACACACACACACACADACACACACACACBCACACACACACACACACACACACACACACACACACACACACACACACACACA",
       "CACACACACACACACACACACACACACACACACACACACACACAbXbOehCbQCDbdHFdfVICAeOhJcOACACACACACACACA",
       "CACACACACACACACACACACACACACACACACACACACACACACACACACACACACACACACACACACACACACACACACACACA",
       "CACACACACACACACACACACACACACACACACACACACACACACACICACACACACACACACACACACACACACACACACACACA",
       "CACACACACACACACACACACACACACACACACACACACACACACACACACACACACACIJFLHJHJFLHJHJNDHJHJHJECBHA",
       "ECCBJDDBJHLCCBeSAOARMeGAEBEAbCAFAFADBJDFAbIPFAbgMZctRbVCAEBCACACAFACBCHEACACACACACACAC",
       "ACACACACACACACACACACACACACACACACACACACACACACACACACACACACACACACACACACACACACACACACACACBI",
       "ACAFANbLCAGAbtwEACACACACACACACACACACACACACACACACACACACACACACAUACACACACACACACACACACACAC",
       "ACCfEACACACACACACCCACACACACACACACACACACACACACACACACACACACACACACACACACACACACACACJCACADA",
       "CACACACAFACADACCCACACACACACACACACACAGAGACACACACACACACAFACADACACACACACACACAWDCACCbfQbQC",
       "NHdBbeaJGNEbpAZbvIbNfHbJgAKCOCGCBrKADCCbPCIbxMbYeWVegPbFbgjXbFcIYbmjFZbBGCRbBZbBDCACGC",
       "KbBZbBZbBZbBZbBZbBZbBZbBZbBbBbDYCFbBYCFbBYCFbBYCFbBYCFCAcsZJCTHFkCcJdhTbH"]),
    ("math", "math",
      ["bRARCbGAbEACAbUAFAbMAbGAbcBCDAbBBDCuICjwOAbCCMAEAOAPDWEMEcOMFAEBFETAFADJCADFHAEBDBCCCF",
       "ENCAcRXCFCBFBFbFCAHBPkHJDVBdNAbFbACAZAMGrEBNJFFFBDBEEPACADFMHGBcGACAbEDKCmZcLjXtRbXUDF",
       "dasRAbfSFCAgHARCbEACAbEACAfCAHDfeGBcvgBAbxWdGCcSCBDADBDDCLCACGCcMCDDHCGCbBCDCECAEGCnBD",
       "lFDbXiiRDCbACBCADACJCDCACAHAFACACACCCBCADACACACACACBCADDCGCDCDCACJCQGCCECQcBBdtFI"]),
    ("noncharactercodepoint", "nchar",
      ["dsdCbFuHBdsyPBdsyPBdsyPBdsyPBdsyPBdsyPBdsyPBdsyPBdsyPBdsyPBdsyPBdsyPBdsyPBdsyPBdsyPBds",
       "yPB"]),
    ("patternsyntax", "patsyn",
      ["bHOLGbBDCAbBDbJGCACBCACBFAFAEAYAbGAluFXJODSCJlUbbRgFyFbFbrNtTeXoWCFYQAczrABkCB"]),
    ("patternwhitespace", "patws",
      ["JETAdXAlyNBZB"]),
    ("quotationmark", "qmark",
      ["bIAFAfCAQAlwVHbABfiEArQDOCdabQDhIAFAdNB"]),
    ("radical", "radical",
      ["rpWZCdKNiF"]),
    ("regionalindicator", "ri",
      ["hgoKZ"]),
    ("sentenceterminal", "sterm",
      ["bHANARAcaCAfSCgZAbSCjNAcKACAEBlIBcpXBbeLAFBbdUAhRBgCBbUAGAmDBnRDgHBLBDBbEChGBcOBbjXAYB",
       "KCeuYClVAOAXBqOAbshXAkLBiUAEAoTBdJBdSAfXBfSCfPBjQAbfcXADBcIAEBgOANARAcOAedXBbxEEbTDhIB",
       "eODeYCfABHARBdLBCBeFAlNBeOBoKBGOeCBjQCtYACAjSBdKBqFBbaRBcXBbcmCBfEAcOBMAvIBlLAbdoHAliN",
       "A"]),
    ("softdotted", "sd",
      ["eBBhPAkWAbFAcBAVAmJAdVACAjmOAcAAOAEAfDAgCAqGAiHBegHAgelIBbZBbZBbZBbZBbZBbZBbZBbZBbZBbZ",
       "BbZBbZBdfZAlUBbBA"]),
    ("terminalpunctuation", "term",
      ["bHALACAMBEAbfZAJAtUAcGAcVAPACCgZAbSKCAjCBcDFCHbGAkCBbwVBgRAFFmABbeKHbdUAeVCcUBgCCEAbOD",
       "DBmDBnRDgHBLBCCbEChGEcLBbjXAYBKCeuYClVAOAFALACBEBqNBbshWBkKCiUEoTBdJBdSAfWCfSCeYARBjQA",
       "bfcXADBcGCCDgOALACAMBEAcOADAbpRAbXAbsPAhSAlZBfXFcRFdMDbkREbTDhIGeJDeYCfABHARBdLEeFAlNB",
       "eOCNBnVDEOeCBjQCtYACAjSBdKBFBpZCbUAyWBcXBbyYEbanABfEAcOCLAvIBlKBbdoHAliMD"]),
    ("unifiedideograph", "uideo",
      ["tsAjtNcNbfbJbicTBCACBLACACBDCdveDclfBbHgmNDioBDlbKQxXgrRhhYGmoN"]),
    ("uppercase", "upper",
      ["cNZdYWCGbIACACACACACACACACACACACACACACACACACACACACACACACACACACACADACACACACACACACADACAC",
       "ACACACACACACACACACACACACACACACACACACACACACBCACAEBCACBCCDDCBCCEBCBCACACBCADACBCCCACBEAI",
       "ADADADACACACACACACACADACACACACACACACACADADACCCACACACACACACACACACACACACACACACACACACACAC",
       "ACACACACACACACACAIBCBDACDCACACACAlEACAEAJAHACCCACBCQCIbKADCEACACACACACACACACACACACAGAD",
       "ACBDbYbXACACACACACACACACACACACACACACACACAKACACACACACACACACACACACACACACACACACACACACACAC",
       "ACACACACACBCACACACACACADACACACACACACACACACACACACACACACACACACACACACACACACACACACACACACAC",
       "ACACACACACACACACACACACACACACACACADbLehEbLCAGAbbVdHdgMAHbQDCmJACACACACACACACACACACACACA",
       "CACACACACACACACACACACACACACACACACACACACACACACACACACACACACACACACACACACACACACACACACACACA",
       "CACACACACACACACACACACACACACACACACACACAKACACACACACACACACACACACACACACACACACACACACACACACA",
       "CACACACACACACACACACACACACACACACACACACACACACACACACAKHJFLHJHJFMACACACAJHcVDNDNDNEMDkDAFA",
       "ECDCDAEEHACACACDDDLBGAbBPUAbfNZcsVbVbXACCDACACACDCADAJCCACACACACACACACACACACACACACACAC",
       "ACACACACACACACACACACACACACACACACACACACACACACACACACACACACACACACACACAJACAFAbtyKACACACACA",
       "CACACACACACACACACACACACACACACACACACAUACACACACACACACACACACACACACAfGACACACACACACAEACACAC",
       "ACACACACACACACACACACACACACACACACACACACACACACACACACACACALACACBCACACACAFACADACAEACACACAC",
       "ACACACACACACECECACACACACACACACDCACBCACACACACACACACAZAbhaIZbvAbNfHbJgBKCOCGCBcqDbYgCVeg",
       "PbFbgjXbFcNYbmjGZbBZbBZbBACBDADBDDCHbBZbBBCDDHCGbCBCDCECAEGbCZbBZbBZbBZbBZbBZbFYbIYbIY",
       "bIYbIYbIAgnMbHdbJZHZHZ"]),
    ("variationselector", "vs",
      ["jcTCCAdjcBPbwnkZjF"]),
    ("whitespace", "space",
      ["JETAdXAbBAihKAdpOKbEBGAbWAfxXA"]),
    ("xidcontinue", "xidc",
      ["bWJIZFACZbWALACADAGWCbECrPFLPEIACASeMCBECCAHECACTCdECfICEDgJCbLDAHbOJbSCACBCBCAJbAFDbE",
       "KGcVFdXCHDJCSDARcGDdWPcBFADADbTTbBFKGXCGIcWCeYDJCSCHDBDVCGCAEDDIDBDDJAFBCEDLLACADCCFFB",
       "DVCGCBCBCBDACEFBDCEAIDCAIPMCCICCCVCGCBCEDJCCCCDAQDDJKGCCCHDBDVCGCBCEDIDBDCICFBCEDJCARB",
       "CFECCDEBCACBEBECELFEECCDDAHAPJRMCCCWCPDICCCDIBCCCBDDDJRDCHCCCWCJCEDICCCDIBGCCDDJCCNMCC",
       "CbYCCCEGDIEDJLFCCCREXCICADGEAFFCACHHJDBOcFGOCJbOBCACECXCACWDECACGCJDDbHAYBHJMACACAFJCb",
       "JFTCRCbJKAcGcVHcZDbLCAGADbQCmUCDDGCACDDbOCDDbGCDDGCACDDOCcECDDcODCKIPPRdHDFExVDQCZGcWE",
       "KIVKVMTNMCCCBNdFEAFBDJbICCKHdKIbQGcRLbECLFLLbNDEMbRFZHKbMbBFcKCbCDKHJOAJNCbEDLVcYEJSIN",
       "eLNcDJJEbWDKGbQDCRCCbMGuNDFDbLDFDHCACACACbEDcACGCAECCGEDDFFMGCCGQBbYBUAbDAOARMcAMFAELS",
       "AFADJCADFHACACACPDDGEFASbOdzCiUHINbLCAGADcDIAQXKGCGCGCGCGCGCGCGCbFtYCbAOCEDEFdHDBDCCdQ",
       "GbQCdPSbFbXPtTjtNcNbguEcQbTDkIEbBVbVFJCeKbMIDdYDdDVcCFAUbZNcRLJHXEACbWDbJNbCEcMPKHbECc",
       "CKNDJHWEcUZCDPDELFDFDFKGCGCbQCNHeSCBDJHqnRNWFbWmnDoBDeBbNGNEGLCMCECACBCBCeDbIfIHiJTcLD",
       "cBbPJHPRPEBZCbIACAEACACACACeVUJIZFACZLdLEFDFDFDCbKLCZCSCBCODNbJeScScAfHAfBbCEbWQAbGbFO",
       "bDGbQGbDDbJFHCEbRgBDJHbJFbJFbNJbZNKCOCGCBCKCOCGCBEbZNlYKVLHZFCbPCIcSFDACbRCBEADWLWKbEc",
       "OSCBLVLZHZbNcDHBcNDCBGHCCCbCDCFAbHbCEbCbKHCbDbAcBLVLSOReHcUcEbYObYObNJJHbLEECWjRbPCBEB",
       "RFbZbILAJbGbGVbRUbCWKcSbGPKcHIAOYIJHcACJFDJbJDAKcQFDCMCAbKRCbKHDcLGCACDCOCJIcGGJHDCHDB",
       "DVCGCBCECJDBDCDAHAGGDGEEMJCADACbLCJCADACDCHOBbEcWGJFDbFcRCAJJgLcBDIYFbJcMEAMJbNcEIJHTb",
       "DbADOFJHGhEcGdYcVWHDADHCBCbDCBDINJcTHDbTDHCBbCcKJAJcVEATcUeAHdLbGQJHICbSCIQJZbDDVCNcWG",
       "CBCbREACBCIJJHFCBCbKCBCFIJHbRFJjNWKQCbOEEOKdIAdCbjLdZeGShNdxLdSQbpFRVLfxQGwKkdEcFcoTvW",
       "IbECJHdACJHbDDEMcCKDNJKUGSqRbSEJhRcLbHYDYbTcWFcEIQcNBCBMGKkxXbQbFdUeKmwSDCGCBClEQAbECD",
       "APDJpFdkVeCGMEIIJEBgeSJtZbTDWuXEEFJHDGbFDfTCrCdGCcSCBDADBDDCLCACGCcMCDDHCGCbBCDCECAEGC",
       "nBDYCYCbECYCbECYCbECYCbECYCHDbXtTcCFbXJAPAXECObqNbEHFiGGCQDGCBCEGcJbIAeJbSENDJFAmKbESc",
       "FsDbPiHbQhQbECVJBiRGCDCBCOChOMGbQcXFJbtVDCbACBCADACJCDCACAHAFACACACCCBCADACACACACACBCA",
       "DDCGCDCDCACJCQGCCECQfaBJbnRclfBbHgmNDioBDlbKQxXdqXuVcfZhhYGmoNbogxZjF"]),
    ("xidstart", "xids",
      ["cNZHZbWALAFAGWCbECrPFLPEIACAfAECBECCAHACCCACTCdECfIJgJCbLDAHbOcUbAFDbUbQbKBCdUCAQBIBLC",
       "DARACbDbEdKMAZbGKBFAGVFAKAEAYYIKGXCGRbPcHcBEATAIJQPFHDBDVCGCAEDEARAOBCCPBLAJFFBDVCGCBC",
       "BCBbGDCAUCRICCCVCGCBCEEATAQBYAMHDBDVCGCBCEEAbFBCCQASACFECCDEBCACBEBECELXAcBHCCCWCPEAbB",
       "CCBDBbFAFHCCCWCJCEEAbFCCBQBSICCCbODARAGCJCZFGREXCICADGcHbVCAOGcHBCACECXCACJCALADECAWDb",
       "HAcMHCbJbCEeMbQVARFFDEAEBICFMNASbLCAGADbQCmUCDDGCACDDbOCDDbGCDDGCACDDOCcECDDcObMPRdHDF",
       "ExVDQCZGcWEKIROSPRPMCCQbZbKAFAcQdKIbOCAGcRLbEbYbDDEMbRFZcDWKcAdFAdQbUSHcDbDOBLbRbBbJbQ",
       "CLbJDKGbQDCbQDCFCBEAGhJcNkRDFDbLDFDHCACACACbEDcACGCAECCGEDDFFMGCCGeNAOARMdYAFADJCADFHA",
       "CACACPDDGEFASbOdzCiUHDEBNbLCAGADcDIARWKGCGCGCGCGCGCGCGvFCbAIIEDEFdHHCCdLCDGbQCdPSbFbXP",
       "tTjtNcNbguEcQbTDkIEPLBVbURbEDdBbOIDdYDdDVQCCCDCWbEbZPbXcLFEACBMbBLWbAbCIbUbDARECJLECbO",
       "YCCHVWEAEbXCAEBDEDACAZCDKICNFDFDFKGCGCbQCNHeKbEqnRNWFbWmnDoBDeBbNGNEGACJCMCECACBCBCeDb",
       "IfIHiJTcLDcBbPJeQACAEACACACACeVbLZHZMcDDbEEFDFDFDCbKLCZCSCBCODNbJeScScAkIbCEbWbWbFObDG",
       "bLLbDDbJFHCEbRgBTbJFbJFbNJbZNKCOCGCBCKCOCGCBEbZNlYKVLHZFCbPCIcSFDACbRCBEADWLWKbEcOSCBL",
       "VLZHZbNcDHBcNAQDCCCbCbRbCEbCbKHCbBbCcBLVLSOReHcUcEbYObYObJbNbBKWjRbPHBRFcFbCLAJVbRRbVU",
       "bCWNcAcGBDAObSbHYbBbJbEADAJbIEANbVPDWACAbKRCYUBcMGCACDCOCJIbUbNHDBDVCGCBCEEATANEbFJCAD",
       "ACbLCAbAACAbTcATDVCbFbVVBCAhDbUbQDbLbVVAcIbQOAcUbAbMGhEbReNcLbGHDADHCBCXQACAdRHDbMRACA",
       "bDALbNIAWAMbTUATcUhSbGbGICbKSAbYbDeJGCBCbLWAbAFCBCbFPAYbRkBSQACMCbHeVAdCbjLdZeGShNdxLd",
       "SQbpFSFbAfxQGwKkdEbDcpVvWIbESdASbDTbVRDbGUGSqRbSiEcLbHYDYbTcWGAcPMcNBCAPEKkxXbQbFdUeKm",
       "wSDCGCBClEQAbECDAPDJpFdkVeCGMEIIJiwLdGCcSCBDADBDDCLCACGCcMCDDHCGCbBCDCECAEGCnBDYCYCbEC",
       "YCbECYCbECYCbECYCHcsZbEHFkCcJfRbSLGRAmKbDTbRsRbBiVbDDAiAbECCCBCGDEKBiRGCDCBCOChOcIcPIA",
       "buJDCbACBCADACJCDCACAHAFACACACCCBCADACACACACACBCADDCGCDCDCACJCQGCCECQgoBclfBbHgmNDioBD",
       "lbKQxXdqXuVcfZhhYGmoN"])]

def propertyAliases : List (String × String) :=
  [("wspace", "whitespace")]

/-- Names of properties that are not binary and so have no set of their own. -/
def valuedProperties : List String :=
  ["gc", "generalcategory", "script", "scx", "scriptextensions", "age", "gcb",
    "graphemeclusterbreak", "sb", "sentencebreak", "wb", "wordbreak"]

def property? (name : String) : Option CharSet :=
  let name := (propertyAliases.lookup name).getD name
  (propertyTables.find? fun (long, short, _) => long == name || short == name).map
    fun (_, _, table) => CharSet.ofRanges (decodeRanges table)

/-! ## Names -/

/-- A name without its case, blanks, dashes, underscores, characters outside ASCII and a leading
`is`; the name `isc` stays as it is. -/
def looseName (name : List Char) : String :=
  let isPrefixed := (name.take 2).map Char.toLower == ['i', 's']
  let rest := if isPrefixed then name.drop 2 else name
  let kept := (rest.filter fun c => c != ' ' && c != '_' && c != '-' && c.toNat < 128).map
    Char.toLower
  if isPrefixed && kept == ['c'] then "isc" else String.ofList kept

/-- The set that a single name stands for: a binary property, a general category or a script. -/
def named? (name : List Char) : Option CharSet :=
  let name := looseName name
  if valuedProperties.contains name then none
  else (property? name).or ((category? name).or (script? name))

def valued? (property value : List Char) : Option CharSet :=
  let value := looseName value
  match looseName property with
  | "gc" | "generalcategory" => category? value
  | "sc" | "script" => script? value
  | "scx" | "scriptextensions" => scriptExtension? value
  | _ => none

/-! ## Classes in common use -/

def digits : CharSet := ofCategories ["nd"]

def spaces : CharSet := (property? "whitespace").getD .empty

def alphabetic : CharSet := (property? "alphabetic").getD .empty

def numeric : CharSet := ofCategories ["nd", "nl", "no"]

/-- Characters of words: alphabetic ones, marks, digits, connectors and joiners. -/
def words : CharSet :=
  (alphabetic.union (ofCategories ["mc", "me", "mn", "nd", "pc"])).union
    ((property? "joincontrol").getD .empty)

end Verdict.Unicode
