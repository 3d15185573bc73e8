import Verdict.Text.CharSet

/-!
# Scripts

The table of scripts lists runs of code points of one script; the table of extensions lists runs
with their scripts, and a code point that it leaves out is used with its own script alone.
-/

namespace Verdict.Unicode

def scriptNames : List (String × String) :=
  [("adlm", "adlam"), ("aghb", "caucasianalbanian"), ("ahom", "ahom"), ("arab", "arabic"),
    ("armi", "imperialaramaic"), ("armn", "armenian"), ("avst", "avestan"), ("bali", "balinese"),
    ("bamu", "bamum"), ("bass", "bassavah"), ("batk", "batak"), ("beng", "bengali"),
    ("bhks", "bhaiksuki"), ("bopo", "bopomofo"), ("brah", "brahmi"), ("brai", "braille"),
    ("bugi", "buginese"), ("buhd", "buhid"), ("cakm", "chakma"), ("cans", "canadianaboriginal"),
    ("cari", "carian"), ("cham", "cham"), ("cher", "cherokee"), ("chrs", "chorasmian"),
    ("copt", "coptic"), ("cpmn", "cyprominoan"), ("cprt", "cypriot"), ("cyrl", "cyrillic"),
    ("deva", "devanagari"), ("diak", "divesakuru"), ("dogr", "dogra"), ("dsrt", "deseret"),
    ("dupl", "duployan"), ("egyp", "egyptianhieroglyphs"), ("elba", "elbasan"),
    ("elym", "elymaic"), ("ethi", "ethiopic"), ("gara", "garay"), ("geor", "georgian"),
    ("glag", "glagolitic"), ("gong", "gunjalagondi"), ("gonm", "masaramgondi"),
    ("goth", "gothic"), ("gran", "grantha"), ("grek", "greek"), ("gujr", "gujarati"),
    ("gukh", "gurungkhema"), ("guru", "gurmukhi"), ("hang", "hangul"), ("hani", "han"),
    ("hano", "hanunoo"), ("hatr", "hatran"), ("hebr", "hebrew"), ("hira", "hiragana"),
    ("hluw", "anatolianhieroglyphs"), ("hmng", "pahawhhmong"), ("hmnp", "nyiakengpuachuehmong"),
    ("hung", "oldhungarian"), ("ital", "olditalic"), ("java", "javanese"), ("kali", "kayahli"),
    ("kana", "katakana"), ("kawi", "kawi"), ("khar", "kharoshthi"), ("khmr", "khmer"),
    ("khoj", "khojki"), ("kits", "khitansmallscript"), ("knda", "kannada"), ("krai", "kiratrai"),
    ("kthi", "kaithi"), ("lana", "taitham"), ("laoo", "lao"), ("latn", "latin"),
    ("lepc", "lepcha"), ("limb", "limbu"), ("lina", "lineara"), ("linb", "linearb"),
    ("lisu", "lisu"), ("lyci", "lycian"), ("lydi", "lydian"), ("mahj", "mahajani"),
    ("maka", "makasar"), ("mand", "mandaic"), ("mani", "manichaean"), ("marc", "marchen"),
    ("medf", "medefaidrin"), ("mend", "mendekikakui"), ("merc", "meroiticcursive"),
    ("mero", "meroitichieroglyphs"), ("mlym", "malayalam"), ("modi", "modi"),
    ("mong", "mongolian"), ("mroo", "mro"), ("mtei", "meeteimayek"), ("mult", "multani"),
    ("mymr", "myanmar"), ("nagm", "nagmundari"), ("nand", "nandinagari"),
    ("narb", "oldnortharabian"), ("nbat", "nabataean"), ("newa", "newa"), ("nkoo", "nko"),
    ("nshu", "nushu"), ("ogam", "ogham"), ("olck", "olchiki"), ("onao", "olonal"),
    ("orkh", "oldturkic"), ("orya", "oriya"), ("osge", "osage"), ("osma", "osmanya"),
    ("ougr", "olduyghur"), ("palm", "palmyrene"), ("pauc", "paucinhau"), ("perm", "oldpermic"),
    ("phag", "phagspa"), ("phli", "inscriptionalpahlavi"), ("phlp", "psalterpahlavi"),
    ("phnx", "phoenician"), ("plrd", "miao"), ("prti", "inscriptionalparthian"),
    ("rjng", "rejang"), ("rohg", "hanifirohingya"), ("runr", "runic"), ("samr", "samaritan"),
    ("sarb", "oldsoutharabian"), ("saur", "saurashtra"), ("sgnw", "signwriting"),
    ("shaw", "shavian"), ("shrd", "sharada"), ("sidd", "siddham"), ("sind", "khudawadi"),
    ("sinh", "sinhala"), ("sogd", "sogdian"), ("sogo", "oldsogdian"), ("sora", "sorasompeng"),
    ("soyo", "soyombo"), ("sund", "sundanese"), ("sunu", "sunuwar"), ("sylo", "sylotinagri"),
    ("syrc", "syriac"), ("tagb", "tagbanwa"), ("takr", "takri"), ("tale", "taile"),
    ("talu", "newtailue"), ("taml", "tamil"), ("tang", "tangut"), ("tavt", "taiviet"),
    ("telu", "telugu"), ("tfng", "tifinagh"), ("tglg", "tagalog"), ("thaa", "thaana"),
    ("thai", "thai"), ("tibt", "tibetan"), ("tirh", "tirhuta"), ("tnsa", "tangsa"),
    ("todr", "todhri"), ("toto", "toto"), ("tutg", "tulutigalari"), ("ugar", "ugaritic"),
    ("vaii", "vai"), ("vith", "vithkuqi"), ("wara", "warangciti"), ("wcho", "wancho"),
    ("xpeo", "oldpersian"), ("xsux", "cuneiform"), ("yezi", "yezidi"), ("yiii", "yi"),
    ("zanb", "zanabazarsquare"), ("zinh", "inherited"), ("zyyy", "common"), ("zzzz", "unknown")]

def scriptAliases : List (String × String) :=
  [("qaac", "copt"), ("qaai", "zinh")]

/-- Runs of one script; code points without a script come under a number of their own. -/
def scriptTable : List String :=
  ["gNcMcUZgNFcUZgNbUcUAgNOcUAgNEcUWgNAcUbEgNAcUrGgNbMcUEgNENBgNTgMeHbSDgNAbSCgOBbSDgNAbSAgODb",
   "SAgNAbSAgNAbSCgOAbSAgOAbSTgOAbScKYNbSPbBfCgMBbBgMgOAFbLgOBFbXgOBFCgOAcAcCgOHcAbAgODcAFgOKD",
   "EgNADFgNADNgNADCgNADbFgNADJgMKDZgMADeDgNADbHfJNgOAfJcHgOBfJCDbVfUbXgONdXcGgOBdXCeTbTgOBeTO",
   "gOAdEbBgOBdEAgOAfJKgOEDbHgOEDcWgNADbCbCdCgMDbCOgNBbCZLDgOALHgOBLBgOBLVgOALGgOALAgOCLDgOBLI",
   "gOBLBgOBLDgOHLAgODLBgOALEgOBLYgOBbVCgOAbVFgODbVBgOBbVVgOAbVGgOAbVBgOAbVBgOAbVBgOBbVAgOAbVE",
   "gODbVBgOBbVCgOCbVAgOGbVDgOAbVAgOGbVQgOJbTCgOAbTIgOAbTCgOAbTVgOAbTGgOAbTBgOAbTEgOBbTJgOAbTC",
   "gOAbTCgOBbTAgOObTDgOBbTLgOGbTGgOAeDCgOAeDHgOBeDBgOBeDVgOAeDGgOAeDBgOAeDEgOBeDIgOBeDBgOBeDC",
   "gOGeDCgODeDBgOAeDEgOBeDRgOJfOBgOAfOFgOCfOCgOAfODgOCfOBgOAfOAgOAfOBgOCfOBgOCfOCgOCfOLgODfOE",
   "gOCfOCgOAfODgOBfOAgOFfOAgONfOUgOEfRMgOAfRCgOAfRWgOAfRPgOBfRIgOAfRCgOAfRDgOGfRBgOAfRCgOAfRB",
   "gOBfRDgOBfRJgOGfRIcPMgOAcPCgOAcPWgOAcPJgOAcPEgOBcPIgOAcPCgOAcPDgOGcPBgOEcPCgOAcPDgOBcPJgOA",
   "cPCgOLdLMgOAdLCgOAdLbYgOAdLCgOAdLFgODdLPgOBdLZgOAfBCgOAfBRgOCfBXgOAfBIgOAfBAgOBfBGgOCfBAgO",
   "DfBFgOAfBAgOAfBHgOFfBJgOBfBCgOLfVcFgODgNAfVbBgObKcTBgOAcTAgOAcTEgOAcTXgOAcTAgOAcTWgOBcTEgO",
   "AcTAgOAcTGgOAcTJgOBcTDgObFfWcTgOAfWbJgODfWbMgOAfWbJgOAfWOgOAfWGgNDfWBgObKdRgDbMbLgOAbMAgOE",
   "bMAgOBbMbQgNAbMDbWjVbKcUgOAbKDgOBbKGgOAbKAgOAbKDgOBbKbOgOAbKDgOBbKbGgOAbKDgOBbKGgOAbKAgOAb",
   "KDgOBbKOgOAbKcEgOAbKDgOBbKcOgOBbKbFgOCbKZgOFWdHgOBWFgOBTyPdZbCgOCeScWgNCeSKgOGfTVgOIfTAbYU",
   "gNBgOIRTgOLfKMgOAfKCgOAfKBgOLcMdPgOBcMJgOFcMJgOFdNBgNBdNAgNAdNTgOFdNdKgOGdNbQgOETcRgOJcWbE",
   "gOAcWLgODcWLgODcWAgOCcWLfMbDgOBfMEgOKfNbRgODfNZgOFfNKgOCfNBcMbFQbBgOBQBcScKgOAcSbCgOBcSKgO",
   "FcSJgOFcSNgOBgMbTgOBgMLgOTHcYgOAHbXfGcLKbZgOHKDcVcDgOCcVOgOCcVCeAbVbBKgOEbMbQgOBbMCfGHgOHg",
   "MCgNAgMMgNAgMGgNDgMAgNFgMAgNCgMBgNAgOEcUbLbSEbBAcUbWbSEcUDbSEcUMbBAcUcRbSAgMcLcUjVbSVgOBbS",
   "FgOBbSbLgOBbSFgOBbSHgOAbSAgOAbSAgOAbSAgOAbSbEgOBbScAgOAbSOgOAbSNgOBbSFgOAbSSgOBbSCgOAbSIgO",
   "AgNLgMBgNdIgOAgNKcUAgOBgNKcUAgNOgOAcUMgOCgNbHgONgMbGgOOgNbLbSAgNCcUBgNFcUAgNbAcUAgNQcUbOgN",
   "CgODgNzPgOVgNKgOUgNbjRPjVgNyDgOBgNfHbNdRcUbFYeLgOEYGbMbLgOAbMAgOEbMAgOBfScDgOGfSBgONfSAbKW",
   "gOIbKGgOAbKGgOAbKGgOAbKGgOAbKGgOAbKGgOAbKGgOAbKGgOAbBbFgNdPgObHbXZgOAbXdKgOLbXiFgOZgNUbXAg",
   "NAbXAgNYbXIgMDbWBgNHbXDgNDgOAcBdHgOBgMBgNBcBCgNAcJdLgNBcJCgOENbQgOAbWdPgOAgNPNbFgNbLgOIgNA",
   "cJPbWbEgOAgNcLbWbEgNdCcJbUgNAcJdJgNgLbXjtNgNcLbXbfbJgKbsUgOCgKcCgOIcZbVgDlNgOTbBdRIdJgOHgN",
   "bHcUdXgNCcUdDgOTcUOfIbSgOCgNJgOFeKcDgOHeVcRgOHeVLgOFbCbFcIbTgNAcIAeQbJgOKeQAbWbCgOCcHcZgOA",
   "gNAcHJgODcHBdRbEgOAVcCgOIVNgOBVJgOBVDdRbFfQcOgOXfQEdPWgOJbKFgOBbKFgOBbKFgOIbKGgOAbKGgOAcUb",
   "QgNAcUIbSAcUDgNBgODWdBdPbTgOBdPJgOFbWqnRgOLbWWgODbWbWgODgPdaTgOjmDbXoBgOBbXeBgObLcUGgOLFEg",
   "OEcAZgOAcAEgOAcAAgOAcABgOAcABgOAcAJDsZgNBDfNgObFDPgMPgNJgOFgMNbBBgNbIgOAgNSgOAgNDgODDEgOAD",
   "fEgOBgNAgOAgNbFcUZgNFcUZgNKcJJgNAcJbSgNBbWbEgOCbWFgOBbWFgOBbWFgOBbWCgOCgNGgOAgNGgOJgNEgOBc",
   "YLgOAcYZgOAcYSgOAcYBgOAcYOgOBcYNgObHcYeSgOEgNCgODgNbSgOCgNIbSdAgOAgNMgOCbSAgObUgNbSgMAgOeZ",
   "dAbCgOCUbWgOOgMAgNbAgODcGbJgOIcGCbQbAgOEeJbQgOEgCbDgOAgCAgHbJgODgHNgObPbFdBeXbVeFbDgOBeFJg",
   "OFeEbJgODeEbJgODbIbNgOHBbZgOKBAgEKgOAgEOgOAgEGgOAgEBgOAgEKgOAgEOgOAgEGgOAgEBgOCfZbZgOLcXlY",
   "gOIcXVgOJcXHgOXcUFgOAcUbPgOAcUIgOcQbAFgOBbAAgOAbAbRgOAbABgOCbAAgOBbAAEVgOAEIeHbFdVbEgOHdVI",
   "gObVbZSgOAbZBgOEbZEeNbBgOCeNAdBZgOEdBAgPZgObLdKbFdJXgODdJTgOBdJbTcLDgOAcLBgOEcLHgOAcLCgOAc",
   "LbCgOBcLCgODcLJgOGcLIgOGeUbFdUbFgObFdFbMgODdFLgOIGcBgOCGGePVgOBePHeLSgOEeLHeMRgOGeMDgOLeMG",
   "gOdBeCcUgOcCcFbYgOMcFbYgOGcFFeRbNgOHeRJgOFbLbLgOCbLbCgOHbLBgOhZDbEgOAgJbPgOAgJCgOBgJBgOPDF",
   "gOHDIgObGDFfDbNgOHfCbPgOVeGZgObLXbBgOTbJWgOIOcZgODObJgOIOAcRcOgOJcRAgOBfEYgOGfEJgOFScAgOAS",
   "RgOHdCbMgOIeYdRgOAfBTgOKcNRgOAcNbUgOcJdQGgOAdQAgOAdQDgOAdQOgOAdQKgOFfAcGgOEfAJgOFbRDgOAbRH",
   "gOBbRBgOBbRVgOAbRGgOAbRBgOAbREgOAgMAbRIgOBbRBgOBbRCgOBbRAgOFbRAgOEbRGgOBbRGgOCbREgOKgBJgOA",
   "gBAgOBgBAgOAgBbLgOAgBJgOAgBAgOBgBAgOAgBDgOAgBJgOAgBBgOHgBBgObCdWdNgOAdWEgObDfXcTgOHfXJgOgJ",
   "eZcBgOBeZbLgObHdMcQgOKdMJgOFdNMgOSfLcFgOFfLJgOFdRTgObBCbAgOBCOgODCWgOhCbEcHgOdVgFdEgOLgFAb",
   "DGgOBbDAgOBbDHgOAbDBgOAbDbDgOAbDBgOBbDLgOIbDJgOcRdTHgOBdTbTgOBdTKgObAgLcTgOHfFdEgOMTPeIcEg",
   "OGbCJgOdHeYHgOdJfHbHgONfHJgOFMIgOAMbSgOAMNgOJMbCgOCdGbFgOBdGVgOAdGNgOcUbPGgOAbPBgOAbPbRgOC",
   "bPAgOAbPBgOAbPIgOHbPJgOFbOFgOAbOBgOAbObKgOAbOBgOAbOFgOGbOJgOFgPbRgODgPJgOjLdDYgOGcKQgOAcKb",
   "OgOCcKbCgOdGcZAgOOfObXgOMfOAgIbjLgOdXgIeGgOAgIEgOKgIhNgOdxJZdUgOMbHbqRgOJbHfxQgOEcCwKgOkdC",
   "bUcFgOcoRIvWgOGdObEgOAdOJgODdOBfYdAgOAfYJgOFJbDgOBJFgOJcDcRgOJcDJgOAcDGgOAcDUgOEcDSgOqPcQc",
   "FgOhPdHdMgOEgPYgOBgPYgObReOcWgODeOcEgOGeOQgOcLfPAdYAbXBcOAgOKbXGgOIfPkfVcOsBgObOcOAfPbEgOd",
   "SfPeKgOmwQcJDgOAcJGgOAcJBgOAcJAcBlAcJCgOOcBAgObCcBCgOBcJAgONcJDgOHdYpFgOdkTbGeCgOEbGMgOCbG",
   "IgOGbGJgOBbGDgNDgOfvFgNjSgOCgNqTgOFgNWgOOgNQgOOgMbTgOBgMWgOIgNeLgOcHgNjLgOJgNbMgOBgNcJgMCg",
   "NQgMHgNBgMGgNbDgMDgNcIgOUbScRgOeRgNTgOLgNTgOLgNdIgOIgNYgOfEgNdGgOAgNcSgOAgNBgOBgNAgOBgNBgO",
   "BgNDgOAgNLgOAgNAgOAgNGgOAgNcMgOAgNDgOBgNHgOAgNGgOAgNbBgOAgNDgOAgNEgOAgNAgOCgNGgOAgNnBgOBgN",
   "lFgOBgNbXeWzBgOOeWEgOAeWOgObqLcUbEgOFcUFgOiEbNGgOAbNQgOBbNGgOAbNBgOAbNEgOEbBcJgObGbBAgOeHc",
   "EbSgOCcENgOBcEJgODcEBgOmHgAbEgOQgGcFgOEgGAgOrVdSbPgOiFeBbQgODeBAgOhJgPbEgOAgPVgOHgPBgOiPbK",
   "GgOAbKDgOAbKBgOAbKOgOAdIhOgOBdIPgObOAcXgODAJgODABgObeEgNcPgOcXgNcIgOhLDDgOADbAgOADBgOADAgO",
   "BDAgOADJgOADDgOADAgOADAgOFDAgODDAgOADAgOADAgOADCgOADBgOADAgOBDAgOADAgOADAgOADAgOADAgOADBgO",
   "ADAgOBDDgOADGgOADDgOADDgOADAgOADJgOADQgOEDCgOADEgOADQgObZDBgOkJgNbRgODgNdVgOLgNOgOBgNOgOAg",
   "NOgOAgNbKgOJgNgRgOcDgNZcBAgNBgOMgNbRgODgNIgOGgNBgONgNFgOfXgNblWgOCgNQgOCgNMgOCgNiJgOFgNLgO",
   "DgNAgOOgNLgODgNcDgOHgNJgOFgNbNgOHgNbDgOBgNLgODgNBgONgNIgObMgNnFgOHgNNgOBgNMgOCgNKgOCgNcEgO",
   "AgNAgODgNPgOBgNLgODgNJgOGgNfQgOAgNdYgObnObXclfBgObFbXgmNgOBbXioBgOBbXlbKgOObXxXgOdqVbXuVgO",
   "cfXbXhhYgOEbXmoNgObogoCgNAgObDgNdRgOeXgMjFgOlecT"]

/-- Runs with their scripts: the gap from the run before, the length less one, the number of
scripts and the scripts. -/
def scriptExtensionTable : List String :=
  ["hBAQGUYbGbIbMbNbObQbSbXcUdBdCeJeXtXAHLbBbCcUcZfVgALACNcUCCCNcUCACcUcZKACcUfVCACNcUbNAIWYbB",
   "bScUeJfHfMBAIWbBbScUeEfHfMfZBAEWbBcUfSBAFbNcUfHfJfVBALBWYbBbQbScUeEfJfSfZBAGYbIbNbQcJcUBAF",
   "bBbScUeJfSBAJYbGcAcUeJfJfMfSfZBALFbBbGbQbScAcUeJfJfMfSBACcUfSBADbGcUfJBAEWbBcUeEBADWcUfMBA",
   "CcUfHBACbKcUCACcUfHBADbBcUfZCAEbScUeJfZQAGWbGcJcUfJfSBAEWbGcUfJBACcUfJIADcUfHfJBACcUfJCADW",
   "cUfJBAHBWbQcUfHfJfVRABbSDABbSTACcUeEGADBcUfZFMBcUFBCYbSkKACbBeJBACbBbNBBCbBcUBACbBbNjYADFb",
   "MbNfBAHDbLdXeRfJfUgJPAHDbLdXeRfJfUgJBADDfJfUDAIADbLdXeRfJfUgJbHAJADdEdFeGeMeRfCfJLKCDfJLJD",
   "DfUgJHACDfJdWACDeRyNAPLbCbRbTbVcPcUdLdTdWeDeYfOfRfXBANLbCbRbTbVcPcUdLdWeDfOfRfXSAVLbCbEbOb",
   "PbRbTbVcPdCdLdTeBeDfAfBfIfLfOfRfXBAXLbCbEbObPbRbTbUbVcPcWdCdLdTeBeDfAfBfIfLfOfRfXBJEbCbEcR",
   "dCePJDLSfIePJCbVdQePJCbTcNjNNCbRfOjJJDcPdTgBbgRJDSdRfMgWADbMbNcUcgMCBeScUBERbYfKfThWBCdNeK",
   "CACdNeKbvFAELbCbRcPBABbCBAELbCbRcPBADbCbRcPBABbCBAFLbCdWfRfXBADLbCfRBADbCdWeYBAELbCdWfRBAC",
   "bCeYBAGbCcPdLeDfOfRBABbCBBCbCeYBBBbCBACbCeYBACLbCBADbCdWfXBFBbCBADbCdTdWBADLbCeYBACbCdWBAB",
   "bCBAELbCdWeYBDBbCBALLbCbRcPdLdTeDfBfRfXgBBACbCbRBAEbCbRcPgBBBCLbCBABLBBCbCbRBABdThQBBbScDA",
   "DbBcUfJCABfJvTADcUdNeKbGACADLAGUbMbNcFdAeCDAEUbScFdKfRADbCbRcUezNACYcUZACGeCBAHGUbMcFcRdBe",
   "TLABbGFADADcFCACbBbNqNPCbXfPCAHNbWbXcBcJdNgKBAINbWbXcBcJdNeKgKBAFNbWbXcBcJDABbXCBINbWbXcBc",
   "JdNfWgKBBJNbWbXcBcJcZdNfWgKBFGNbWbXcBcJgKCAFNbWbXcBcJBHGNbWbXcBcJgKBDFNbWbXcBcJLDCNbXDAFNb",
   "WbXcBcJBECcBcJCAFNbWbXcBcJFBDbXcBcJBBBbXdMDCcBcJEACcBcJdNAGNbWbXcBcJgKBACcBcJfSPBbXbHbLBbX",
   "KACbXfPbXbNBbXcFbWBbXQLBbXcAABbXdLYBbXLEBbXdTbEBbXbriVACbBbNfPHCbXcUlLCQbCbEbTbVcNcPcRdCdL",
   "dMdTeYfAfLfXgBBCPbCbEbTbVcNcPcRdCdMdTeYfAfLfXgBBBLbCbEbTbVcNcRdCdMfAfLfXBAMbCbEbTbVcNcRdCd",
   "MeYfAfLfXBALbCbEbTbVcNcRdCdMfAfLfXhCADLbCgBCACbCfOcHADcIcUdRgFACQcHbfpNBCDdXgXACDfULACDfUc",
   "UBFNbWbXcBcJkXEGNbWbXcBcJgKLACcBcJbUBCcBcJnPBDZbAcYBACbAcYFbSDbAcXcYEICbAcYqBbBCDYdaLACdFe",
   "GdbJACbRfOCACbRfOcEBCbRfOetWBCbRfOCACbRfOchjXDBbGipXRBbXlrZBBbX"]

def scriptIndex? (name : String) : Option Nat :=
  let name := (scriptAliases.lookup name).getD name
  scriptNames.findIdx? fun (code, long) => code == name || long == name

def scriptRuns : List (Nat × Nat × Nat) :=
  decodeRuns scriptTable

def decodeExtensions (fuel : Nat) (last : Nat) (numbers : List Nat) :
    List (List Nat × Nat × Nat) :=
  match fuel, numbers with
  | fuel + 1, gap :: length :: count :: rest =>
    let first := last + gap
    let final := first + length
    (rest.take count, first, final) :: decodeExtensions fuel final (rest.drop count)
  | _, _ => []

def scriptExtensionRuns : List (List Nat × Nat × Nat) :=
  let numbers := decodeNumbers scriptExtensionTable
  decodeExtensions numbers.length 0 numbers

def script? (name : String) : Option CharSet :=
  (scriptIndex? name).map fun index =>
    CharSet.ofRanges ((scriptRuns.filter (·.1 == index)).map Prod.snd)

/-- The code points used with a script. -/
def scriptExtension? (name : String) : Option CharSet :=
  (scriptIndex? name).bind fun index =>
    (script? name).map fun own =>
      let listed := CharSet.ofRanges (scriptExtensionRuns.map Prod.snd)
      let used := (scriptExtensionRuns.filter (·.1.contains index)).map Prod.snd
      (own.difference listed).union (CharSet.ofRanges used)

end Verdict.Unicode
