/-
# Scripts

A character belongs to one script, and a few characters that several
scripts share have a set of extensions.  Scripts are numbered by their
place in `Script.names`; a run of code points is written as its length,
the number of its scripts, and the scripts.
-/
import HeaderCheck.Unicode.Table

namespace HeaderCheck.Unicode.Script

/-- The names of each script, in the normal form of property names. -/
def names : List (List String) :=
  [["adlm", "adlam"], ["aghb", "caucasianalbanian"], ["ahom"],
   ["arab", "arabic"], ["armi", "imperialaramaic"], ["armn", "armenian"],
   ["avst", "avestan"], ["bali", "balinese"], ["bamu", "bamum"],
   ["bass", "bassavah"], ["batk", "batak"], ["beng", "bengali"],
   ["bhks", "bhaiksuki"], ["bopo", "bopomofo"], ["brah", "brahmi"],
   ["brai", "braille"], ["bugi", "buginese"], ["buhd", "buhid"],
   ["cakm", "chakma"], ["cans", "canadianaboriginal"], ["cari", "carian"],
   ["cham"], ["cher", "cherokee"], ["chrs", "chorasmian"],
   ["copt", "coptic", "qaac"], ["cpmn", "cyprominoan"], ["cprt", "cypriot"],
   ["cyrl", "cyrillic"], ["deva", "devanagari"], ["diak", "divesakuru"],
   ["dogr", "dogra"], ["dsrt", "deseret"], ["dupl", "duployan"],
   ["egyp", "egyptianhieroglyphs"], ["elba", "elbasan"], ["elym", "elymaic"],
   ["ethi", "ethiopic"], ["geor", "georgian"], ["glag", "glagolitic"],
   ["gong", "gunjalagondi"], ["gonm", "masaramgondi"], ["goth", "gothic"],
   ["gran", "grantha"], ["grek", "greek"], ["gujr", "gujarati"],
   ["guru", "gurmukhi"], ["hang", "hangul"], ["hani", "han"],
   ["hano", "hanunoo"], ["hatr", "hatran"], ["hebr", "hebrew"],
   ["hira", "hiragana"], ["hluw", "anatolianhieroglyphs"],
   ["hmng", "pahawhhmong"], ["hmnp", "nyiakengpuachuehmong"], [""],
   ["hung", "oldhungarian"], ["ital", "olditalic"], ["java", "javanese"],
   ["kali", "kayahli"], ["kana", "katakana"], ["kawi"],
   ["khar", "kharoshthi"], ["khmr", "khmer"], ["khoj", "khojki"],
   ["kits", "khitansmallscript"], ["knda", "kannada"], ["kthi", "kaithi"],
   ["lana", "taitham"], ["laoo", "lao"], ["latn", "latin"],
   ["lepc", "lepcha"], ["limb", "limbu"], ["lina", "lineara"],
   ["linb", "linearb"], ["lisu"], ["lyci", "lycian"], ["lydi", "lydian"],
   ["mahj", "mahajani"], ["maka", "makasar"], ["mand", "mandaic"],
   ["mani", "manichaean"], ["marc", "marchen"], ["medf", "medefaidrin"],
   ["mend", "mendekikakui"], ["merc", "meroiticcursive"],
   ["mero", "meroitichieroglyphs"], ["mlym", "malayalam"], ["modi"],
   ["mong", "mongolian"], ["mroo", "mro"], ["mtei", "meeteimayek"],
   ["mult", "multani"], ["mymr", "myanmar"], ["nagm", "nagmundari"],
   ["nand", "nandinagari"], ["narb", "oldnortharabian"],
   ["nbat", "nabataean"], ["newa"], ["nkoo", "nko"], ["nshu", "nushu"],
   ["ogam", "ogham"], ["olck", "olchiki"], ["orkh", "oldturkic"],
   ["orya", "oriya"], ["osge", "osage"], ["osma", "osmanya"],
   ["ougr", "olduyghur"], ["palm", "palmyrene"], ["pauc", "paucinhau"],
   ["perm", "oldpermic"], ["phag", "phagspa"],
   ["phli", "inscriptionalpahlavi"], ["phlp", "psalterpahlavi"],
   ["phnx", "phoenician"], ["plrd", "miao"],
   ["prti", "inscriptionalparthian"], ["rjng", "rejang"],
   ["rohg", "hanifirohingya"], ["runr", "runic"], ["samr", "samaritan"],
   ["sarb", "oldsoutharabian"], ["saur", "saurashtra"],
   ["sgnw", "signwriting"], ["shaw", "shavian"], ["shrd", "sharada"],
   ["sidd", "siddham"], ["sind", "khudawadi"], ["sinh", "sinhala"],
   ["sogd", "sogdian"], ["sogo", "oldsogdian"], ["sora", "sorasompeng"],
   ["soyo", "soyombo"], ["sund", "sundanese"], ["sylo", "sylotinagri"],
   ["syrc", "syriac"], ["tagb", "tagbanwa"], ["takr", "takri"],
   ["tale", "taile"], ["talu", "newtailue"], ["taml", "tamil"],
   ["tang", "tangut"], ["tavt", "taiviet"], ["telu", "telugu"],
   ["tfng", "tifinagh"], ["tglg", "tagalog"], ["thaa", "thaana"], ["thai"],
   ["tibt", "tibetan"], ["tirh", "tirhuta"], ["tnsa", "tangsa"], ["toto"],
   ["ugar", "ugaritic"], ["vaii", "vai"], ["vith", "vithkuqi"],
   ["wara", "warangciti"], ["wcho", "wancho"], ["xpeo", "oldpersian"],
   ["xsux", "cuneiform"], ["yezi", "yezidi"], ["yiii", "yi"],
   ["zanb", "zanabazarsquare"], ["zinh", "inherited", "qaai"],
   ["zyyy", "common"], ["zzzz", "unknown"]]

/-- The script of each code point. -/
def runs : List Nat := table
  "CnbGhBabCsgbGhBabCsBvbGhbbCspbGhbbCsfbGhxbCsbbGhBfbCsbbGhRhbCsBnbGhfbCsfbG
  hcbnubGhEibGgebBrbbGhdbBrcbGiebBrbbGhbbBrebGibbBrbbGhbbBrbbGhdbBrbbGibbBrb
  bGiubBrbbGiClbBrobyqbBrFdbBbcbGgGnbBbbbGiBmbfcbGiBybfcbGidbfbbGiCdbByibGiB
  bbByebGigbBylbGifbdbbGhgbdbbGhobdbbGhdbdbbGhBgbdbbGhkbdlbGgBabdbbGgEebdbbG
  hBibdobFfbbGiCibFfcbGidbFfBwbdBybFqobGiChbDvcbGidbDvBubEqcbGipbEqbbGiBcbDc
  cbGibbDcbbGilbFffbGiBfbdbbGicbdgbGiCwbdbbGhBdbdDdbBcebGgpbBccbGhBabBceblbb
  GiiblcbGicblcbGiwblbbGihblbbGibbldbGieblcbGijblcbGicblcbGieblibGibblebGicb
  lbbGifblcbGizblcbGidbBtbbGigbBtebGicbBtcbGiwbBtbbGihbBtbbGicbBtbbGicbBtbbG
  icbBtcbGibbBtbbGifbBtebGicbBtcbGidbBtdbGibbBthbGiebBtbbGibbBthbGirbBtkbGid
  bBsbbGijbBsbbGidbBsbbGiwbBsbbGihbBsbbGicbBsbbGifbBscbGikbBsbbGidbBsbbGidbB
  scbGibbBspbGiebBscbGimbBshbGihbBsbbGidbEabbGiibEacbGicbEacbGiwbEabbGihbEab
  bGicbEabbGifbEacbGijbEacbGicbEacbGidbEahbGidbEaebGicbEabbGifbEacbGisbEakbG
  icbFkbbGigbFkdbGidbFkbbGiebFkdbGicbFkbbGibbFkbbGicbFkdbGicbFkdbGidbFkdbGim
  bFkebGifbFkdbGidbFkbbGiebFkcbGibbFkgbGibbFkobGivbFkfbGinbFnbbGidbFnbbGixbF
  nbbGiqbFncbGijbFnbbGidbFnbbGiebFnhbGicbFnbbGidbFncbGibbFncbGiebFncbGikbFnh
  bGijbFnnbCobbGidbCobbGixbCobbGikbCobbGifbCocbGijbCobbGidbCobbGiebCohbGicbC
  ogbGicbCobbGiebCocbGikbCobbGidbCombGinbDjbbGidbDjbbGiBzbDjbbGidbDjbbGigbDj
  ebGiqbDjcbGiBabDjbbGidbEybbGisbEydbGiybEybbGijbEybbGibbEycbGihbEydbGibbEye
  bGigbEybbGibbEybbGiibEygbGikbEycbGidbEymbGiCgbFrebGibbGhBcbFrBlbGicbCrbbGi
  bbCrbbGifbCrbbGiybCrbbGibbCrbbGixbCrcbGifbCrbbGibbCrbbGihbCrbbGikbCrcbGieb
  CrBgbGiCubFsbbGiBkbFsebGiBnbFsbbGiBkbFsbbGipbFsbbGihbFsebGhcbFsBlbGiGebDpB
  mbBlbbGibbBlfbGibbBlcbGiBrbBlbbGhebBlJwbBuCvbBkbbGiebBkcbGihbBkbbGibbBkbbG
  iebBkcbGiBpbBkbbGiebBkcbGiBhbBkbbGiebBkcbGihbBkbbGibbBkbbGiebBkcbGipbBkbbG
  iCfbBkbbGiebBkcbGiCpbBkcbGiBgbBkdbGiBabBkgbGiDibwcbGigbwcbGiYqbtBdbDxdbGiC
  xbEpdbGhlbEphbGiwbFpjbGibbFpvbBwcbGhjbGiubrmbGinbFgbbGidbFgbbGicbFgmbGiDqb
  ClcbGikbClgbGikbClgbGicbDlcbGhbbDlbbGhubDlgbGiDlbDlhbGiBrbDlfbGiCsbtkbGiBf
  bCubbGimbCuebGimbCuebGibbCudbGimbCuBebFicbGifbFilbGiBsbFjebGiBabFjgbGilbFj
  dbGicbFjBgbClBcbqcbGicbqClbCqbbGiBdbCqcbGilbCqgbGikbCqgbGiobCqcbGiBfbGgBxb
  GiCzbhdbGiBvbhbbGiCmbFdCabkibGiebkCebCtdbGipbCtdbGidbCtBwbDyjbBbhbGiBrbBlc
  bGidbBlibFdibGidbGgbbGhnbGgbbGhhbGgebGhbbGggbGhbbGgdbGhcbGgbbGhfbGiBmbCsfb
  BrbbBbBxbCsfbBrebCsfbBrnbCsbbBbCsbCsbbBrCmbGgJwbCswbBrcbGigbBrcbGiBmbBrcbG
  igbBrcbGiibBrbbGibbBrbbGibbBrbbGibbBrbbGiBfbBrcbGiCbbBrbbGipbBrbbGiobBrcbG
  igbBrbbGitbBrcbGidbBrbbGijbBrbbGimbGhcbGgDjbGhbbGilbGhbbCscbGilbGhbbCspbGh
  bbGinbCsdbGiBhbGhpbGiBhbGgpbGiBmbGhbbBrdbGhcbCsgbGhbbCsBbbGhbbCsrbGhBpbCsd
  bGhebGiZnbGhzbGilbGhvbGiBJsbGhJwbpYebGhcbGiBgbGhbbGiEbbGhDsbBmBgbCsEmbyfbG
  ihbyBmbBlbbGibbBlfbGibbBlcbGiCebFohbGicbFoobGibbFoxbBkjbGihbBkbbGihbBkbbGi
  hbBkbbGihbBkbbGihbBkbbGihbBkbbGihbBkbbGihbBkbbGiBgbBbDqbGhBibGiBabBvbbGiDl
  bBvmbGiIgbBvBabGimbGhebGifbGhbbBvbbGhbbBvzbGhjbBvebGgcbBuibGhebBvebGhbbGiD
  ibBzcbGicbGgcbGhdbBzbbGhDmbCicbGhdbCifbGiBrbnbbGiDqbBubbGiqbGhBgbnBkbGhmbG
  iqbCiBfbBubbGiCmbGhBfbBuDdbGhBvbCibbGhDkbCiGmbGhJTobBvCmbGhBFBkbBvBSvbGedb
  GiCdbGejbGiBwbCxLobFxubGiDsbBbDkbiibGiBibGhDybCsdbGhCmbCsfbGicbCsbbGibbCsb
  bGifbCsybGiobCsBtbFedbGikbGhgbGiCebEhibGiCsbEsibGimbEsgbGiBgbBcBubChbbGhbb
  ChBkbEnlbGibbEnBdbBudbGiDabCgbbGibbGhkbCgebGicbCgBfbDpbbGiCdbvjbGiobvcbGik
  bvcbGiebvBgbDpCpbFmybGifbFmxbDnkbGigbBkcbGigbBkcbGigbBkjbGihbBkbbGihbBkbbG
  iBrbCsbbGhjbCsbbBrebCscbGhebGiDcbwBubDncbGikbDngbGiQNsbBumbGixbBuebGiBxbBu
  MNcbGiOcbBvcbGiEcbBvBmbGihbCsmbGifbffbGiBabBybbGifbBybbGibbBybbGicbBybbGic
  bBybbGikbByElbdqbGiNzbdcbGhDcbdcbGiCcbdhbGibbdBgbGiqbdqbGgkbGhgbGiobGgcbBb
  BjbGhbbGitbGhbbGiebGhebGifbdbbGiFfbdcbGibbGhbbGiBgbGhBabCsgbGhBabCslbGhkbC
  ibbGhBtbCicbGhBfbBudbGigbBucbGigbBucbGigbBucbGidbBudbGihbGhbbGihbGhkbGifbG
  hcbGimbCwbbGiBabCwbbGitbCwbbGicbCwbbGipbCwcbGiobCwBibGiEtbCwfbGidbGhebGiBt
  bGhdbGijbGhDbbBrbbGinbGhdbGibbBrBvbGiBtbGhbbGgFabGiBdbCydbGiBxbupbGibbGgBb
  bGhebGiBkbCfjbGidbCfBbbBpfbGiBrbEgfbGiBebFwbbGibbFwBkbGbebGiobGbBqbGiDcbBf
  BwbEuBebEccbGikbEcgbGiBkbEbebGiBkbEbebGiBobBiibGiCabblbGibbblbFybbGipbFybb
  GihbFybbGicbFybbGilbFybbGipbFybbGihbFybbGicbFyCpbGiLzbCvjbGiwbCvkbGiibCvyb
  GigbCsbbGiBqbCsbbGijbCsCrbGigbBacbGibbBabbGiBsbBabbGicbBadbGibbBacbGibbBaw
  bebbGijbeBgbEeBfbDtibGijbDtBwbGitbBxbbGicbBxfbGifbBxBcbEkdbGibbEkBabCzfbGi
  bbCzCmbGiBgbDiybDhebGiubDhcbGiBubDhebCkbbGicbCkfbGiibCkbbGidbCkbbGiBdbCkcb
  GidbCkebGikbCkhbGijbCkhbGiBgbErBgbDsBgbGiBnbDdebGimbDdjbGiCcbgdbGihbgwbEmc
  bGiibEmtbEifbGiibEisbEjhbGiebEjmbGihbEjDcbGiCvbDzCdbGiBzbCenbGiBzbCehbGigb
  CeBobEoibGikbEoLibGiBfbdbbGiBqbGdbbGidbGdcbGicbGdCxbGidbdBobFaibGiBqbEzwbG
  iBabEdBmbGiBcbxubGixbBjjbGiDaboebGiBkbojbGibboCpbCpkbGibbCpcbGizbFbhbGikbF
  bgbGiCbbsbbGisbsibGiBnbDajbGiDsbEvbbGiubEylbGisbCmbbGiBvbCmCkbGihbDobbGibb
  DobbGiebDobbGipbDobbGilbDogbGiChbExfbGikbExgbGiebBqbbGiibBqcbGicbBqcbGiwbB
  qbbGihbBqbbGicbBqbbGifbBqbbGibbGgjbBqcbGicbBqcbGidbBqcbGibbBqgbGibbBqfbGih
  bBqcbGihbBqdbGifbBqFjbGiDobDubbGifbDuBebGiCubFtibGikbFtGkbGiCcbEwcbGiBmbEw
  BibGiCrbDklbGikbDkgbGinbDltbGiCgbFhgbGikbFhCcbGiBbbccbGipbcebGixbcHdbGiCib
  BeDwbGiDfbFzmbGibbFzhbBdcbGibbBdcbGiibBdbbGicbBdbbGiBebBdbbGicbBdcbGimbBdj
  bGikbBdCsbGiibDrcbGiBubDrcbGilbDrBbbGiCubGfibGiDfbFcnbGiqbtCfbEfhbGikbBcJm
  bGijbmbbGiBtbmbbGiobmkbGiBdbmdbGiBgbDecbGiwbDebbGiobDeCvbGihbBobbGicbBobbG
  iBsbBodbGibbBobbGicbBobbGijbBoibGikbBogbGigbBnbbGicbBnbbGiBlbBnbbGicbBnbbG
  igbBnhbGikbBnLybGizbDbhbGirbCjbbGiBpbCjdbGiBcbCjDibGibbCxpbGiBybFknbGibbFk
  BJmbGcDybGiEhbGcbbGifbGclbGiHobGcDXkbGiDvbznbGiBQsbBhFYgbGiWlbCaMUbbGiVxbi
  hbGiBfbDmbbGikbDmebGicbDmDbbFubbGikbFugbGiBebjcbGigbjkbGiCsbCbkbGikbCbbbGi
  hbCbbbGivbCbfbGitbCbBAmbGiDnbDfDxbGiCxbElebGiCfbElhbGirbElCmbGibbFlbbDwcbB
  vbbCnlbGicbBvobGiJCabFlibGiBDobFlScbCnBqbGijbFlNFrbGiebCibbGihbCibbGicbCib
  bGibbCiLbbBzdbCipbGibbBzBdbGidbBzcbGibbCiobGiebCiibGiPgbDwDKubGiEdbBgfbGin
  bBgdbGijbBghbGikbBgcbGiebBgebGhGYubGiBubGgcbGixbGgjbGiEmbGhCibGiJmbGhkbGiB
  nbGhcbGiCkbGhdbGgrbGhibGgcbGhhbGgBebGhebGgCjbGhvbGiCsbBrEsbGiubGhmbGiubGhm
  bGiDjbGhjbGizbGhFfbGiDhbGhbbGiCtbGhbbGicbGhcbGibbGhcbGicbGhcbGiebGhbbGimbG
  hbbGibbGhbbGihbGhbbGiCnbGhbbGiebGhcbGiibGhbbGihbGhbbGiBcbGhbbGiebGhbbGifbG
  hbbGibbGhdbGihbGhbbGiNcbGhcbGiLgbGhcbGiBybGhZcbEtpbGifbEtbbGipbEtBQmbGiBfb
  CsgbGigbCsIfbGihbBmbbGirbBmcbGihbBmbbGicbBmbbGifbBmfbGiCkbBbBhbGibbBbEibGi
  BtbCcdbGiobCccbGikbCcebGicbCcMibGiBfbFvrbGiCgbGafbGibbGaRwbGiBqbDqBCobGihb
  BkbbGiebBkbbGicbBkbbGipbBkbbGiHpbDgcbGiqbDgBpbGiCybaebGikbaebGicbaBEfbGiCq
  bGhCybGiCjbGhHmbGiebdbbGiBbbdbbGicbdbbGibbdcbGibbdbbGikbdbbGiebdbbGibbdbbG
  ibbdgbGibbdebGibbdbbGibbdbbGibbdbbGidbdbbGicbdbbGibbdcbGibbdbbGibbdbbGibbd
  bbGibbdbbGibbdbbGicbdbbGibbdcbGiebdbbGihbdbbGiebdbbGiebdbbGibbdbbGikbdbbGi
  rbdfbGidbdbbGifbdbbGirbdCabGicbdKkbGiBsbGhebGiDwbGhmbGipbGhcbGipbGhbbGipbG
  hbbGiBlbGhkbGiGsbGhCebGiBabGhbbBzcbGhnbGiBsbGhebGijbGhhbGicbGhobGigbGhFybG
  iBLwbGhebGirbGhdbGinbGhdbGiEpbGhebGiDrbGhgbGimbGhebGibbGhpbGimbGhebGiCebGh
  ibGikbGhgbGiBobGhibGiBebGhcbGicbGhDabGiNcbGhmbGiobGhcbGinbGhdbGijbGhhbGiBu
  bGhbbGihbGhibGiobGhebGijbGhhbGijbGhhbGiFrbGhbbGiCdbGhBlbGikbGhBNqbGiCLFcbB
  vBgbGiGDubBvgbGiIobBvcbGiINqbBvobGiLBlbBvEPjbGiUwbBvCFybGiHHzbBvfbGiGFgbBv
  BOMXlbGibbGhBebGiDsbGhEybGiJgbGgLECubGi"

/-- The script extensions of each code point. -/
def extensionRuns : List Nat := table
  "CnbGhBabCsgbGhBabCsBvbGhbbCspbGhbbCsfbGhxbCsbbGhBfbCsbbGhRhbCsBnbGhfbCsfbG
  hcbnubGhCobGgbbBrcbGgbbBrBdbGgnbCsebBrbbGhdbBrcbGiebBrbbGhbbBrebGibbBrbbGh
  bbBrbbGhdbBrbbGibbBrbbGiubBrbbGiClbBrobyqbBrFbbBbbcBbEgbcBbBmccBbCsbcBbBmG
  mbBbbbGiBmbfcbGiBybfcbGidbfbbGiCdbByibGiBbbByebGigbBylbGifbdbbGhgbdbgdDvEo
  FfFqGdobdbgdDvEoFfFqGdbddFfFqcbdbhadDvEoFfFqGdBgbdbjadDcDdEdEjEoEzFfkbdlcd
  FfkbdkddFqGdgbdbcdFfDvbdbcdEoibdbbGhBibdobFfbbGiCibFfcbGidbFfBwbdBybFqobGi
  ChbDvcbGidbDvBubEqcbGipbEqbbGiBcbDccbGibbDcbbGilbFffbGiBfbdbbGicbdgbGiCwbd
  bbGhBdbdDdbBcbnlBcBqBsBtCoCsDjEaEvFkFnFtbmlBcBqBsBtCoCsDjEaFkFnFtcbGgpbBcb
  ulBcBeBnBoBqBsBtCoDaDjDrEaExEyFeFhFkFnFtbvlBcBeBnBoBqBsBtCoCuDaDjDrEaExEyF
  eFhFkFnFtkeBcBeCpDaqbBceblbbGiiblcbGicblcbGiwblbbGihblbbGibbldbGieblcbGijb
  lcbGicblcbGieblibGibblebGicblbbGifblcbGikdlsFepblcbGidbBtbbGigbBtebGicbBtc
  bGiwbBtbbGihbBtbbGicbBtbbGicbBtbbGicbBtcbGibbBtbbGifbBtebGicbBtcbGidbBtdbG
  ibbBthbGiebBtbbGibbBthbGikcBtDohbBtkbGidbBsbbGijbBsbbGidbBsbbGiwbBsbbGihbB
  sbbGicbBsbbGifbBscbGikbBsbbGidbBsbbGidbBscbGibbBspbGiebBscbGikcBsCmcbBshbG
  ihbBsbbGidbEabbGiibEacbGicbEacbGiwbEabbGihbEabbGicbEabbGifbEacbGijbEacbGic
  bEacbGidbEahbGidbEaebGicbEabbGifbEacbGisbEakbGicbFkbbGigbFkdbGidbFkbbGiebF
  kdbGicbFkbbGibbFkbbGicbFkdbGicbFkdbGidbFkdbGimbFkebGifbFkdbGidbFkbbGiebFkc
  bGibbFkgbGibbFkobGiocBqFkhbFkfbGinbFnbbGidbFnbbGixbFnbbGiqbFncbGijbFnbbGid
  bFnbbGiebFnhbGicbFnbbGidbFncbGibbFncbGiebFncbGikbFnhbGijbFnnbCobbGidbCobbG
  ixbCobbGikbCobbGifbCocbGijbCobbGidbCobbGiebCohbGicbCogbGicbCobbGiebCocbGik
  cCoDrbbGidbCombGinbDjbbGidbDjbbGiBzbDjbbGidbDjbbGigbDjebGiqbDjcbGiBabDjbbG
  idbEybbGisbEydbGiybEybbGijbEybbGibbEycbGihbEydbGibbEyebGigbEybbGibbEybbGii
  bEygbGikbEycbGidbEymbGiCgbFrebGibbGhBcbFrBlbGicbCrbbGibbCrbbGifbCrbbGiybCr
  bbGibbCrbbGixbCrcbGifbCrbbGibbCrbbGihbCrbbGikbCrcbGiebCrBgbGiCubFsbbGiBkbF
  sebGiBnbFsbbGiBkbFsbbGipbFsbbGihbFsebGhcbFsBlbGiCmbDpkdsDpFiDibDpBmbBlbbGi
  bbBlfbGibbBlcbGiBrbBlbcBlCsebBlJwbBuCvbBkbbGiebBkcbGihbBkbbGibbBkbbGiebBkc
  bGiBpbBkbbGiebBkcbGiBhbBkbbGiebBkcbGihbBkbbGibbBkbbGiebBkcbGipbBkbbGiCfbBk
  bbGiebBkcbGiCpbBkcbGiBgbBkdbGiBabBkgbGiDibwcbGigbwcbGiYqbtBdbDxdbGiCxbEpdb
  GhlbEphbGiwbFpjbGibbFpvbBwcerBwFgFpjbGiubrmbGinbFgbbGidbFgbbGicbFgmbGiDqbC
  lcbGikbClgbGikbClgbGicbDlccDlEhbbDlbcDlEhubDlgbGiDlbDlhbGiBrbDlfbGiCsbtkbG
  iBfbCubbGimbCuebGimbCuebGibbCudbGimbCuBebFicbGifbFilbGiBsbFjebGiBabFjgbGil
  bFjdbGicbFjBgbClBcbqcbGicbqClbCqbbGiBdbCqcbGilbCqgbGikbCqgbGiobCqcbGiBfbGg
  BxbGiCzbhdbGiBvbhbbGiCmbFdCabkibGiebkCebCtdbGipbCtdbGidbCtBwbDyjbBbhbGiBrb
  BlcbGidbBlibFdibGibelBcBqCobbBcbelBcBqCobcBcBqbbBccclBcbcBcEvbclBcbcBcEvbg
  BcCoDjEaFkFnbbBcccBcEvcbBcbcBcEvbclBchbBcbcBcDrbclBccbBcbclBcebBcbilBcBqCo
  DrEaFnFtbcBcBqbdBcBqCocclBcbblccBcBqbbDrfbGiBmbCsfbBrbbBbBxbCsfbBrebCsfbBr
  nbCsbbBbCsbCsdbBrCcbGgbcBbFfbbGgbbFffbGgJwbCswbBrcbGigbBrcbGiBmbBrcbGigbBr
  cbGiibBrbbGibbBrbbGibbBrbbGibbBrbbGiBfbBrcbGiCbbBrbbGipbBrbbGiobBrcbGigbBr
  bbGitbBrcbGidbBrbbGijbBrbbGimbGhcbGgBhbGhbcCsDlCbbGhbbGilbGhbbCscbGilbGhbb
  CspbGhbbGinbCsdbGiBhbGhpbGiBgbGgbdBcBqCspbGiBmbGhbbBrdbGhcbCsgbGhbbCsBbbGh
  bbCsrbGhBpbCsdbGhebGiZnbGhzbGilbGhvbGiBJsbGhJwbpYebGhcbGiBgbGhbbGiEbbGhDsb
  BmBgbCsEmbyfbGihbyBmbBlbbGibbBlfbGibbBlcbGiCebFohbGicbFoobGibbFoxbBkjbGihb
  BkbbGihbBkbbGihbBkbbGihbBkbbGihbBkbbGihbBkbbGihbBkbbGihbBkbbGiBgbBbCpbGhbc
  BbBmBabGhBibGiBabBvbbGiDlbBvmbGiIgbBvBabGimbGhebGibbGhcgnBuBvBzCiGebfnBuBv
  BzCibbGhdbBvkgnBuBvBzCiGebbGhbfnBuBvBzCiignBuBvBzCiGeefnBuBvBzCibbGhjbBvec
  nBvcbBubfnBuBvBzCifcBzCibbGhbfnBuBvBzCiebBvcdBvBzCicbBvbbGiDibBzcbGiecBzCi
  dbBzbcBzCiDmbCibgnBuBvBzCiGebcBzCidbCifbGiBrbnbbGiDqbBubbGiqbBvBgbnBkbBvmb
  GiqbCiBfbBubbGiBobBvybGhBfbBubbGhBxbBvpbGhmbBvebGhBvbCibbBvDkbCizbBvkbGhfb
  BvDsbGhBfbBvbbGhJTobBvCmbGhBFBkbBvBSvbGedbGiCdbGejbGiBwbCxLobFxubGiBvbBbbc
  BbBmBwbBbDkbiibGiicBvCsBabGhDybCsdbGhCmbCsfbGicbCsbbGibbCsbbGifbCsybGiobCs
  BtbFedbGidoBcBeBsBtCmCoCpDaDjDkDrExFhFtdnBcBeBsBtCmCoCpDaDkDrExFhFtelBcBeB
  sBtCmCpDaDkExFhFtgbGiCebEhibGiCsbEsibGimbEsgbGirbBcbclBcbbBcbcBcFkmbBcBubC
  hbdChCsDpbbChBkbEnlbGibbEnBdbBudbGiDabCgbbGibcqCgkbCgebGicbCgBfbDpbbGiCdbv
  jbGiobvcbGikbvcbGiebvBgbDpCpbFmybGifbFmxbDnkbGigbBkcbGigbBkcbGigbBkjbGihbB
  kbbGihbBkbbGiBrbCsbbGhjbCsbbBrebCscbGhebGiDcbwBubDncbGikbDngbGiQNsbBumbGix
  bBuebGiBxbBuMNcbGiOcbBvcbGiEcbBvBmbGihbCsmbGifbffbGiBabBybbGifbBybbGibbByb
  bGicbBybbGicbBybbGikbByElbdqbGiNzbdccdDvDcbdcbGiCcbdhbGibbdBgbGicbdbcdFqkb
  dbcdFqcbdqbGgkbGhgbGiobGgcbBbvbGhcfnBuBvBzCimbGhbbGitbGhbbGiebGhebGifbdbbG
  iFfbdcbGibbGhbbGiBgbGhBabCsgbGhBabCsgbGhfgnBuBvBzCiGekbCibcBzCiBtbCiccBzCi
  BfbBudbGigbBucbGigbBucbGigbBucbGidbBudbGihbGhbbGihbGhkbGifbGhcbGimbCwbbGiB
  abCwbbGitbCwbbGicbCwbbGipbCwcbGiobCwBibGiEtbCwfbGicdzBaCwbcBaCwebGiBtdBaCv
  CwdbGijcBaCwDbbBrbbGinbGhdbGibbBrBvbGiBtbGhbbGgFabGiBdbCydbGiBxbupbGiBccdy
  ebGiBkbCfjbGidbCfBbbBpfbGiBrbEgfbGiBebFwbbGibbFwBkbGbebGiobGbBqbGiDcbBfBwb
  EuBebEccbGikbEcgbGiBkbEbebGiBkbEbebGiBobBiibGiCabblbGibbblbFybbGipbFybbGih
  bFybbGicbFybbGilbFybbGipbFybbGihbFybbGicbFyCpbGiLzbCvjbGiwbCvkbGiibCvybGig
  bCsbbGiBqbCsbbGijbCsCrbGigbBacbGibbBabbGiBsbBabbGicbBadbGibbBacbGibbBawbeb
  bGijbeBgbEeBfbDtibGijbDtBwbGitbBxbbGicbBxfbGifbBxBcbEkdbGibbEkBabCzfbGibbC
  zCmbGiBgbDiybDhebGiubDhcbGiBubDhebCkbbGicbCkfbGiibCkbbGidbCkbbGiBdbCkcbGid
  bCkebGikbCkhbGijbCkhbGiBgbErBgbDsBgbGiBnbDdebGihbDdbcDdEdebDdjbGiCcbgdbGih
  bgwbEmcbGiibEmtbEifbGiibEisbEjhbGiebEjmbGihbEjDcbGiCvbDzCdbGiBzbCenbGiBzbC
  ehbGigbCeBobEoibGikbEoLibGiBfbdbbGiBqbGdbbGidbGdcbGicbGdCxbGidbdBobFaibGiB
  qbEzwbGiBabEdBmbGiBcbxubGixbBjjbGiDaboebGiBkbojbGibboCpbCpkbGibbCpcbGizbFb
  hbGikbFbgbGiCbbsbbGisbsibGiBnbDajbGiDsbEvbbGiubEylbGisbCmbbGiBvbCmCkbGihbD
  obbGibbDobbGiebDobbGipbDobbGilbDogbGiChbExfbGikbExgbGibbBqbcBqFkbbBqbcBqFk
  bbGiibBqcbGicbBqcbGiwbBqbbGihbBqbbGicbBqbbGifbBqbbGiccBqFkibBqcbGicbBqcbGi
  dbBqcbGibbBqgbGibbBqfbGihbBqcbGihbBqdbGifbBqFjbGiDobDubbGifbDuBebGiCubFtib
  GikbFtGkbGiCcbEwcbGiBmbEwBibGiCrbDklbGikbDkgbGinbDltbGiCgbFhgbGikbFhCcbGiB
  bbccbGipbcebGixbcHdbGiCibBeDwbGiDfbFzmbGibbFzhbBdcbGibbBdcbGiibBdbbGicbBdb
  bGiBebBdbbGicbBdcbGimbBdjbGikbBdCsbGiibDrcbGiBubDrcbGilbDrBbbGiCubGfibGiDf
  bFcnbGiqbtCfbEfhbGikbBcJmbGijbmbbGiBtbmbbGiobmkbGiBdbmdbGiBgbDecbGiwbDebbG
  iobDeCvbGihbBobbGicbBobbGiBsbBodbGibbBobbGicbBobbGijbBoibGikbBogbGigbBnbbG
  icbBnbbGiBlbBnbbGicbBnbbGigbBnhbGikbBnLybGizbDbhbGirbCjbbGiBpbCjdbGiBcbCjD
  ibGibbCxpbGiqbFkccBqFkbbFkbcBqFkBebFknbGibbFkBJmbGcDybGiEhbGcbbGifbGclbGiH
  obGcDXkbGiDvbznbGiBQsbBhFYgbGiWlbCaMUbbGiVxbihbGiBfbDmbbGikbDmebGicbDmDbbF
  ubbGikbFugbGiBebjcbGigbjkbGiCsbCbkbGikbCbbbGihbCbbbGivbCbfbGitbCbBAmbGiDnb
  DfDxbGiCxbElebGiCfbElhbGirbElCmbGibbFlbbDwcbBvbbCnlbGicbBvobGiJCabFlibGiBD
  obFlScbCnBqbGijbFlNFrbGiebCibbGihbCibbGicbCibbGibbCiLbbBzdbCipbGibbBzBdbGi
  dbBzcbGibbCiobGiebCiibGiPgbDwDKubGiEdbBgfbGinbBgdbGijbBghbGikbBgcbGiibBgGY
  ubGiBubGgcbGixbGgjbGiEmbGhCibGiJmbGhkbGiBnbGhcbGiCkbGhdbGgrbGhibGgcbGhhbGg
  BebGhebGgCjbGhvbGiCsbBrEsbGiubGhmbGiubGhmbGiDjbGhjbGisbBvhbGhFfbGiDhbGhbbG
  iCtbGhbbGicbGhcbGibbGhcbGicbGhcbGiebGhbbGimbGhbbGibbGhbbGihbGhbbGiCnbGhbbG
  iebGhcbGiibGhbbGihbGhbbGiBcbGhbbGiebGhbbGifbGhbbGibbGhdbGihbGhbbGiNcbGhcbG
  iLgbGhcbGiBybGhZcbEtpbGifbEtbbGipbEtBQmbGiBfbCsgbGigbCsIfbGihbBmbbGirbBmcb
  GihbBmbbGicbBmbbGifbBmfbGiCkbBbBhbGibbBbEibGiBtbCcdbGiobCccbGikbCcebGicbCc
  MibGiBfbFvrbGiCgbGafbGibbGaRwbGiBqbDqBCobGihbBkbbGiebBkbbGicbBkbbGipbBkbbG
  iHpbDgcbGiqbDgBpbGiCybaebGikbaebGicbaBEfbGiCqbGhCybGiCjbGhHmbGiebdbbGiBbbd
  bbGicbdbbGibbdcbGibbdbbGikbdbbGiebdbbGibbdbbGibbdgbGibbdebGibbdbbGibbdbbGi
  bbdbbGidbdbbGicbdbbGibbdcbGibbdbbGibbdbbGibbdbbGibbdbbGibbdbbGicbdbbGibbdc
  bGiebdbbGihbdbbGiebdbbGiebdbbGibbdbbGikbdbbGirbdfbGidbdbbGifbdbbGirbdCabGi
  cbdKkbGiBsbGhebGiDwbGhmbGipbGhcbGipbGhbbGipbGhbbGiBlbGhkbGiGsbGhCebGiBabGh
  bbBzcbGhnbGiBsbGhebGijbGhhbGicbBvobGigbGhFybGiBLwbGhebGirbGhdbGinbGhdbGiEp
  bGhebGiDrbGhgbGimbGhebGibbGhpbGimbGhebGiCebGhibGikbGhgbGiBobGhibGiBebGhcbG
  icbGhDabGiNcbGhmbGiobGhcbGinbGhdbGijbGhhbGiBubGhbbGihbGhibGiobGhebGijbGhhb
  GijbGhhbGiFrbGhbbGiCdbGhBlbGikbGhBNqbGiCLFcbBvBgbGiGDubBvgbGiIobBvcbGiINqb
  BvobGiLBlbBvEPjbGiUwbBvCFybGiHHzbBvfbGiGFgbBvBOMXlbGibbGhBebGiDsbGhEybGiJg
  bGgLECubGi"

/-- The scripts of the code point `n`, in a table of runs that is at least
as long as `fuel` says. -/
def find : (fuel : Nat) → List Nat → Nat → List Nat
  | fuel + 1, k :: m :: t, n =>
      if n < k then t.take m else find fuel (t.drop m) (n - k)
  | _, _, _ => []

/-- The scripts a character is in, by script or by script extension. -/
def scriptsOf (extensions : Bool) (c : Char) : List Nat :=
  let runs := if extensions then extensionRuns else runs
  find runs.length runs c.toNat

/-- The code points in a script, as ranges, in a table of runs that is at
least as long as `fuel` says and whose first run begins at `start`. -/
def ranges (number : Nat) : (fuel start : Nat) → List Nat → List (Nat × Nat)
  | fuel + 1, start, k :: m :: t =>
      let rest := ranges number fuel (start + k) (t.drop m)
      if (t.take m).contains number then (start, start + k - 1) :: rest else rest
  | _, _, _ => []

/-- The code points in a script or script extension. -/
def rangesOf (extensions : Bool) (number : Nat) : List (Nat × Nat) :=
  let runs := if extensions then extensionRuns else runs
  ranges number runs.length 0 runs

end HeaderCheck.Unicode.Script
