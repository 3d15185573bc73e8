import Verdict.Text.CharSet

/-!
# Case folding

Characters that differ only in case form an orbit.  The table lists each orbit by the gap from the
first member of the orbit before to its own first member, the number of its members less two, and
the gaps between its members.
-/

namespace Verdict.Unicode

def foldingTable : List String :=
  ["cNAbGBAbGBAbGBAbGBAbGBAbGBAbGBAbGBAbGBAbGBBbGmkLBAbGBAbGBAbGBAbGBAbGBAbGBAbGBBbGkIBAbGBAbG",
   "BAbGBAbGBAbGBAbGBAbGdNBbcPbGLAbGBAbGBAbGBAbGBAbGBBbGmfUBAbGBAbGBAbGBAbGBAbGBAbGBAbGBAbGBAb",
   "GBAbGBAbGBAbGBAbGBAbGBAbGBAbGBAbGCAbGBAbGBAbGBAbGBAbGBAbGBAbGBAlgXbGAeRBABCABCABCABCABCABC",
   "ABCABCABCABCABCABCABCABCABCABCABCABCABCABCABCABCABCABEABCABCABDABCABCABCABCABCABCABCABDABC",
   "ABCABCABCABCABCABCABCABCABCABCABCABCABCABCABCABCABCABCABCABCABCABDABCABCABDAhNBAiCBABCABCA",
   "hYBABCAhXBAhXBABDAdBBAhUBAhVBABCAhXBAhZBAdTBAiDBAiBBABCAgHBAckyZBAiDBAiFBAfABAiGBABCABCABC",
   "AiKBABCAiKDABCAiKBABCAiJBAiJBABCABCAiLBABEABDAcEFBBBDBBBDBBBDABCABCABCABCABCABCABCABDABCAB",
   "CABCABCABCABCABCABCABDBBBDABEABCABCABCABCABCABCABCABCABCABCABCABCABCABCABCABCABCABCABCABEA",
   "BCABCABCABCABCABCABCABCABIApzFBABDApzCBApzZBApzZBABDAcRBAcTBABCABCABCABCABCApyTBApyQBApySK",
   "AckpRFAckpNDAckqPBAckoEBAckpGEAckpGBApxFBAckpDFApxLMApwPFAckpFFAckoGWAcknLBAcknIgLCdGbGkpX",
   "bRABCABEABFAfABAfABAfACAeMHAbMCAbLBAbLBAbLCAcMCAcLBAcLBAksHBAbGBBbGbEBAbGBAbGBBbGcMBAbGBAb",
   "GBCbGZbJCBbGcCBAbGCAbGBAbGBAbGBBbGWBBbGbWCBbFBBAbGBAbGBBbGPBAbGBAbGBBbGldDBAbGBAbGFAkrRbFA",
   "IJABCABCABCABCABCABCABCABCABCABCABCABEAHFABDABGAdCBAdCBAdCBAdCBAdCBAdCBAdCBAdCBAdCBAdCBAdC",
   "BAdCBAdCBAdCBAdCBAdCBAbGBAbGBBbGjfIBAbGBBbGjfHBAbGBAbGBAbGBAbGBAbGBAbGBAbGBAbGBAbGBBbGjeYB",
   "AbGBAbGBBbGjeWBCbGjeWBBAbGBAbGBAbGBAbGBAbGBAbGBAbGBBbGjeQBAbGBAbGBAbGBAbGBAbGbXABCBBjdSCAB",
   "CABCABCABCABCABCABCABCABCABCABCABCABCABCABKABCABCABCABCABCABCABCABCABCABCABCABCABCABCABCAB",
   "CABCABCABCABCABCABCABCABCABCABCABCAPBABCABCABCABCABCABCABDABCABCABCABCABCABCABCABCABCABCAB",
   "CABCABCABCABCABCABCABCABCABCABCABCABCABCABCABCABCABCABCABCABCABCABCABCABCABCABCABCABCABCAB",
   "CABCABCABCABCABCABCABDAbWBAbWBAbWBAbWBAbWBAbWBAbWBAbWBAbWBAbWBAbWBAbWBAbWBAbWBAbWBAbWBAbWB",
   "AbWBAbWBAbWBAbWBAbWBAbWBAbWBAbWBAbWBAbWBAbWBAbWBAbWBAbWBAbWBAbWBAbWBAbWBAbWBAbWBAbWehEAktK",
   "BAktKBAktKBAktKBAktKBAktKBAktKBAktKBAktKBAktKBAktKBAktKBAktKBAktKBAktKBAktKBAktKBAktKBAktK",
   "BAktKBAktKBAktKBAktKBAktKBAktKBAktKBAktKBAktKBAktKBAktKBAktKBAktKBAktKBAktKBAktKBAktKBAktK",
   "BAktKCAktKGAktKDAelSBAelSBAelSBAelSBAelSBAelSBAelSBAelSBAelSBAelSBAelSBAelSBAelSBAelSBAelS",
   "BAelSBAelSBAelSBAelSBAelSBAelSBAelSBAelSBAelSBAelSBAelSBAelSBAelSBAelSBAelSBAelSBAelSBAelS",
   "BAelSBAelSBAelSBAelSBAelSBAelSBAelSBAelSBAelSBAelSDAelSBAelSBAelSzXAcfmUBAcfmUBAcfmUBAcfmU",
   "BAcfmUBAcfmUBAcfmUBAcfmUBAcfmUBAcfmUBAcfmUBAcfmUBAcfmUBAcfmUBAcfmUBAcfmUBAcfmUBAcfmUBAcfmU",
   "BAcfmUBAcfmUBAcfmUBAcfmUBAcfmUBAcfmUBAcfmUBAcfmUBAcfmUBAcfmUBAcfmUBAcfmUBAcfmUBAcfmUBAcfmU",
   "BAcfmUBAcfmUBAcfmUBAcfmUBAcfmUBAcfmUBAcfmUBAcfmUBAcfmUBAcfmUBAcfmUBAcfmUBAcfmUBAcfmUBAcfmU",
   "BAcfmUBAcfmUBAcfmUBAcfmUBAcfmUBAcfmUBAcfmUBAcfmUBAcfmUBAcfmUBAcfmUBAcfmUBAcfmUBAcfmUBAcfmU",
   "BAcfmUBAcfmUBAcfmUBAcfmUBAcfmUBAcfmUBAcfmUBAcfmUBAcfmUBAcfmUBAcfmUBAcfmUBAcfmUBAcfmUBAcfmU",
   "BAcfmUBAIBAIBAIBAIBAIBAIdgLBcaeKBBABjGAcagYEAfqSRAcaiYeKABCABCABCABCABCABCABCABCABCABCABCA",
   "BCABCABCABCABCABCABCABCABCABCABCABCABCABCABCABCABCABCABCABCABCABCABCABCABCABCABCABCABCABCA",
   "BCABCABCABCABCABCABCBBcGCABCABCABCABCABCABCABCABCABCABCABCABCABCABCABCABCABCABCABCABCABCAB",
   "CABCABCABCABMABCABCABCABCABCABCABCABCABCABCABCABCABCABCABCABCABCABCABCABCABCABCABCABCABCAB",
   "CABCABCABCABCABCABCABCABCABCABCABCABCABCABCABCABCABCABCABCABCABCABCAIBAIBAIBAIBAIBAIBAIBAI",
   "JAIBAIBAIBAIBAIBAILAIBAIBAIBAIBAIBAIBAIBAIJAIBAIBAIBAIBAIBAIBAIBAIJAIBAIBAIBAIBAIBAIMAICAI",
   "CAICAIJAIBAIBAIBAIBAIBAIBAIBAIJAcWBAcWBAdIBAdIBAdIBAdIBAdWBAdWBAeYBAeYBAeIBAeIBAeWBAeWDAIB",
   "AIBAIBAIBAIBAIBAIBAIJAIBAIBAIBAIBAIBAIBAIBAIJAIBAIBAIBAIBAIBAIBAIBAIJAIBAICAJQAJNAIBAIPAIB",
   "AIEAHOAJmHAbCbUAQBAQBAQBAQBAQBAQBAQBAQBAQBAQBAQBAQBAQBAQBAQBAQUABbfNAbABAbABAbABAbABAbABAb",
   "ABAbABAbABAbABAbABAbABAbABAbABAbABAbABAbABAbABAbABAbABAbABAbABAbABAbABAbABAbABAbAcsVAbWBAb",
   "WBAbWBAbWBAbWBAbWBAbWBAbWBAbWBAbWBAbWBAbWBAbWBAbWBAbWBAbWBAbWBAbWBAbWBAbWBAbWBAbWBAbWBAbWB",
   "AbWBAbWBAbWBAbWBAbWBAbWBAbWBAbWBAbWBAbWBAbWBAbWBAbWBAbWBAbWBAbWBAbWBAbWBAbWBAbWBAbWBAbWBAb",
   "WBAbWbXABHABCABCABHABDABLABCABCABCABCABCABCABCABCABCABCABCABCABCABCABCABCABCABCABCABCABCAB",
   "CABCABCABCABCABCABCABCABCABCABCABCABCABCABCABCABCABCABCABCABCABCABCABCABCABCABCABCABJABCAB",
   "FABbtyKABCABCABCABCABEABCABCABCABCABCABCABCABCABCABCABCABCABCABCABCABCABUABCABCABCABCABCAB",
   "CABCABCABCABCABCABCABCABfGABCABCABCABCABCABCABEABCABCABCABCABCABCABCABCABCABCABCABCABCABCA",
   "BCABCABCABCABCABCABCABCABCABCABCABCABCABCABCABCABLABCABDABCABCABCABCABFABFABCABCAbWCABCABC",
   "ABCABCABCABCABCABCABCABLAbjSBABCABCABCABCABCABCABCABFABCABDABCABCABCABCABCABCABCABbBABbflW",
   "ABboMAbGBAbGBAbGBAbGBAbGBAbGBAbGBAbGBAbGBAbGBAbGBAbGBAbGBAbGBAbGBAbGBAbGBAbGBAbGBAbGBAbGBA",
   "bGBAbGBAbGBAbGBAbGbvAAbOBAbOBAbOBAbOBAbOBAbOBAbOBAbOBAbOBAbOBAbOBAbOBAbOBAbOBAbOBAbOBAbOBA",
   "bOBAbOBAbOBAbOBAbOBAbOBAbOBAbOBAbOBAbOBAbOBAbOBAbOBAbOBAbOBAbOBAbOBAbOBAbOBAbOBAbOBAbOBAbO",
   "fHAbOBAbOBAbOBAbOBAbOBAbOBAbOBAbOBAbOBAbOBAbOBAbOBAbOBAbOBAbOBAbOBAbOBAbOBAbOBAbOBAbOBAbOB",
   "AbOBAbOBAbOBAbOBAbOBAbOBAbOBAbOBAbOBAbOBAbOBAbOBAbOBAbOgBAbNBAbNBAbNBAbNBAbNBAbNBAbNBAbNBA",
   "bNBAbNBAbNCAbNBAbNBAbNBAbNBAbNBAbNBAbNBAbNBAbNBAbNBAbNBAbNBAbNBAbNBAbNCAbNBAbNBAbNBAbNBAbN",
   "BAbNBAbNCAbNBAbNcqDAcMBAcMBAcMBAcMBAcMBAcMBAcMBAcMBAcMBAcMBAcMBAcMBAcMBAcMBAcMBAcMBAcMBAcM",
   "BAcMBAcMBAcMBAcMBAcMBAcMBAcMBAcMBAcMBAcMBAcMBAcMBAcMBAcMBAcMBAcMBAcMBAcMBAcMBAcMBAcMBAcMBA",
   "cMBAcMBAcMBAcMBAcMBAcMBAcMBAcMBAcMBAcMBAcMgCAbGBAbGBAbGBAbGBAbGBAbGBAbGBAbGBAbGBAbGBAbGBAb",
   "GBAbGBAbGBAbGBAbGBAbGBAbGBAbGBAbGBAbGBAbGegPAbGBAbGBAbGBAbGBAbGBAbGBAbGBAbGBAbGBAbGBAbGBAb",
   "GBAbGBAbGBAbGBAbGBAbGBAbGBAbGBAbGBAbGBAbGBAbGBAbGBAbGBAbGBAbGBAbGBAbGBAbGBAbGBAbGbgjXAbGBA",
   "bGBAbGBAbGBAbGBAbGBAbGBAbGBAbGBAbGBAbGBAbGBAbGBAbGBAbGBAbGBAbGBAbGBAbGBAbGBAbGBAbGBAbGBAbG",
   "BAbGBAbGBAbGBAbGBAbGBAbGBAbGBAbGcNAbBBAbBBAbBBAbBBAbBBAbBBAbBBAbBBAbBBAbBBAbBBAbBBAbBBAbBB",
   "AbBBAbBBAbBBAbBBAbBBAbBBAbBBAbBBAbBBAbBBAbBbuiAAbIBAbIBAbIBAbIBAbIBAbIBAbIBAbIBAbIBAbIBAbI",
   "BAbIBAbIBAbIBAbIBAbIBAbIBAbIBAbIBAbIBAbIBAbIBAbIBAbIBAbIBAbIBAbIBAbIBAbIBAbIBAbIBAbIBAbIBA",
   "bI"]

def decodeMembers (last : Nat) : List Nat → List Nat
  | [] => []
  | gap :: rest => (last + gap) :: decodeMembers (last + gap) rest

/-- Reads orbits behind the first member of the orbit before. -/
def decodeOrbits (fuel : Nat) (last : Nat) (numbers : List Nat) : List (List Nat) :=
  match fuel, numbers with
  | fuel + 1, gap :: count :: rest =>
    let first := last + gap
    let others := decodeMembers first (rest.take (count + 1))
    (first :: others) :: decodeOrbits fuel first (rest.drop (count + 1))
  | _, _ => []

def orbits : List (List Nat) :=
  let numbers := decodeNumbers foldingTable
  decodeOrbits numbers.length 0 numbers

/-- A set together with everything that differs from a member of it only in case. -/
def foldCase (set : CharSet) : CharSet :=
  let touched := orbits.filter fun orbit => orbit.any set.contains
  set.union (CharSet.ofRanges (touched.flatten.map fun code => (code, code)))

def foldAsciiCase (set : CharSet) : CharSet :=
  let upper := (List.range 26).map fun i => ('A'.toNat + i, 'a'.toNat + i)
  let touched := upper.filter fun (a, b) => set.contains a || set.contains b
  set.union (CharSet.ofRanges (touched.flatMap fun (a, b) => [(a, a), (b, b)]))

end Verdict.Unicode
