/-
# Age

The version of the standard that assigned each code point.  Versions are
numbered by their place in `Age.versions`, the oldest first, and a pattern
that names one means all characters assigned up to then.
-/
import HeaderCheck.Unicode.Table

namespace HeaderCheck.Unicode.Age

/-- The versions, in the order of their numbers, with the names they go
by. -/
def versions : List (List String) :=
  [["1.1", "v11"], ["2.0", "v20"], ["2.1", "v21"], ["3.0", "v30"],
   ["3.1", "v31"], ["3.2", "v32"], ["4.0", "v40"], ["4.1", "v41"],
   ["5.0", "v50"], ["5.1", "v51"], ["5.2", "v52"], ["6.0", "v60"],
   ["6.1", "v61"], ["6.2", "v62"], ["6.3", "v63"], ["7.0", "v70"],
   ["8.0", "v80"], ["9.0", "v90"], ["10.0", "v100"], ["11.0", "v110"],
   ["12.0", "v120"], ["12.1", "v121"], ["13.0", "v130"], ["14.0", "v140"],
   ["15.0", "v150"]]

/-- Runs of code points: a length and one more than the version, or zero
for code points not assigned. -/
def runs : List Nat := table
  "TibeeBebiebgbhsedhliojDlbfechBvbbekbferhCsbjebgihfidhcbbengekcbckcabbdjbbb
  qeahbbabbbaubbaBsbbkhbbecgbbbebbbebbbebbbesbcfbgfheibembbeCobbembbeBpbbkce
  cgeeCbbcgcbcgcbcgbjBcbceibcicbgjqgejqkclcmiqbaBmbcahbbuBnbbubbbecacqbnbarc
  binckbbjjbbcdiiaBbbeabufblaehbnbqfkbibbjhfkbbbpbybibbbmBabfktbdedhgibmobcg
  CubcefbbepbbeBebchkbfebhoebaBeedhBbecadhBeiskBxebgoaChjcaduBulcaplbaBcmcab
  mbaltfaBfybacygaiybnbqlngqcrbyiskxlybupsbrBbnbqbldbbhCbbcmsbblbmfbblcmzbck
  fmbqclcjbicjbqdbbaibcacbcawbbahbbabbdaebcabbbhhbcacbcadbbiiabbeacbbafbcavb
  blctbucabhbbbhbagbeacbcawbbahbbacbbacbbacbcabbbafbeacbcadbdabkhaebbabbhapb
  bkbukadbbahbbhbbbadbbawbbahbbacbbafbcakbbadbbadbcabbpabbdhcakbbnbhhabrgtba
  dbbaibcacbcawbbahbbacbbabhebcaibbkcacbcadbhabxcbeacbbadbckcalbbhgmkacbbagb
  dadbbaebdacbbabbbacbdacbdadbdaibbidbeafbdadbbaebcabkgabboabimbihfabqdbbuib
  badbbaxbbakbbqfbcabybkhbbadbbaebhacbbackbrcabycacbckcakbhabvikbsbqcbbuibba
  dbbaxbbakbbafbcachhbbadbbaebhacbgabybbbacbcjcakbbacjbzmabtbqcbbxibbadbbaxb
  bmqbbmctbkgbbkbadbbaebbmbseadsbbhsbrcbckcakbgkdshkbabxcebasedayebajebabeca
  hedabeeagebabebaiegakqcademaCgbeaBdbBlacbbabbbabvcbbvbbbabvbbgvebbvhbbvdbb
  abbbabbcvcbbvnbbvdbcafbbabbbagbbzbakbcacbcnBgaCucbaBhcbeckeaBbcemgcbebcbav
  cdehcbebcdebapebabkbecidkelcmBlaBiebkfebkcebkhedkeegkBaeCmkelckBmbbabnfabn
  caBnbcgcibbbidnDmbflCqbflDebglhebiClebibebaeecahebabebaeecaBnebibebaeecaBf
  ebibebaeecahebabebaeecahebihebaxebiBfebibebaeecahebiBnebitecacmciBcedaBaig
  aDhebrcagrcablYgejlBdedaDdeiqhangbyhgbyjabyxgjaugmangbadgbacgmaDpebhcakega
  khgapebykegaDkebuhaBqebkfaCslkaBdhcqbamheamheabhdaBqhcafhlaBqicleaBaigakib
  ldaciBghBcicaciCllbaBdlcallgaklgaolcapqcxoyBxaCyjbydaBtjcybaBrkdnmkgnCamia
  emCekdapkdaBzkjshaBrucaduiniaBjlenbtcqbvfaEehDkihjBckpqetbybsbmblcjFzbbcek
  DmbgkwbcagbcaBmbcagbcaibbabbbabbbabbbaBfbcaCbbbapbbaobcagbbatbcadbbajbbaBv
  bbexbbggefgchcibghifgbkbaephbbgcaBbbbafiimdalbbcbddecgeidlbmbodqbrbtbypasb
  cehgbiejbkpaCfbcebhbipgbicjbkdlBwbbebjekblcreaDnbjemgJibogbbbeErbbebgBeeCa
  gchlimjbllmhqesbtBlbcezalbvaFjbugbhFubkgDcbieigubchcgbibeDibcemgcikgihlibk
  clchqibjkkdlekklbmtlbmblemylbqebbmebcmBcbbmBjbbmbbbmebdmbbblhbcmhbogBfbdmy
  bbmobbmhiejbnbkbncmBcgekqgJweTsgohgihjfkejBpkdqfkflBaqcaBgqbabxBiqdumqbviq
  btzuerpubvBvibyBvibynjdkbldkejgkclEdihlcnfaBtibabnfabncaCcicnhabibmoabmxij
  ahibahibahibahibahibahibahibahibaBgkyiekcitkblknhqcsftfubvdxlyBiaBaebaDlem
  aIgeBaameeaCebdedgbebbbaDgbcgcagbcgDqbbgfaBobbkbtbubaDqbbaqbyedmfxqiukmaqg
  BdbchbaBkbmlbhpgBcbchbiBybpgmbehBvbbwEpbehDvbchBfbbhJTeekxCmhBEXybwiikilbn
  jrvtfunxdyBSvedasecgqebgmebgdebgbejaBwlLokuaBgkcmskinBckgqbrbnDkliaxiejfkc
  jEdkcmbrcmcnmqkmbndqbsbucqgrcugvcyfvexfacybabybafyyadycxbqcnbmfkBsibxdaklg
  aCejiaCrkbsiamkgaBclcrcuDgklabkBdldaDalballeaclBfqbaCdkjaokcakkcaekBcleqCp
  lyaflxnkagmcagmcagmjahmbahmbaBwqercqcvexeaDcrBulcaklgaQNscmaxleaBxleaDAucJ
  XubcnChgdlcaEciBmahbmafbfabezbbafbbabbbacbbacbbaEebqmbyqaObbqyCmbcaCcbhaby
  BgfmbbgbhcyqgkigaebdkhqcrvbcgchkbbatbbaebeadbbgbbbaFfbcabbbaDqbcgDqbdagbca
  gbcagbcadbdahbbahbkadebddbmhbaBahbathbachbaphcaohBiaEthfadheaBthdajhCxicqc
  sbamkbxdabqBvaBukFaaBdkdaBxkpaBcqeaBffbqefjadtBbffaBrqfaBehbabhBkieaoiBqaB
  mfchBmfDchcakhgaBkseaBkseaBoqiaCaqlabqlybapybahybacybalybapybahybacyCpaLzq
  jawqkaiqyagybaBqybajyCraghcabhbaBshbachdabhcabhwlbajlClqiajqBwatrbacrfafrB
  ajcldabjBakfabkCmaCeneacrcnqrcaBureibacifaiibadibaBbicucadieajibuhajihaBgl
  BgqBgaBnqeamqjaCcldaBdlcaBblfailsqhaeqmahqDcaCvlCdaBzrnaBzrhagrBouiakuLiaB
  flbaBqxbadxcacxCxadzBouiaBquwaBayBmaBcxuaxvjaDameaBemgyjabqColbykabucaznha
  kngaCbnbaondubxiaBnqjaCvnerbqcxknbqfrbauqlasqbaBrqbsdzCkahrbabrbaerbaprbal
  rgaChqfakqgabrdqbaiqcacqcawqbahqbacqbafqbabujqcacqcadqcabrgabqfahqcahqdafq
  FjaDmsbxbsbabsbubvcxBeaCuqiakqGkaCcqcasqurBiaCrqlakqganstaCenbvbygaknCcaBa
  rbucapreaqrhyHdaCiuDwaDfqmabqhxcabxcaixbacxbaBexbacxcamxjakxCsaivcaBuvcalv
  BbaCutiaCatcvxtbuftnaqyCfqhakzJmajsbaBtsbaoskaBdsdaBgscawsbaosCvahtbactbaB
  stdabtbactbajtiaktgagubacubaBlubacubaguhakuLyazuharzbaBpzdaBczDiabxpaByvna
  bvBHvjBqqbrDyaDvjmqbaejbqlaHorDXkaDvynaBPflbzjvBdzFYgaWlrMUbaVxmhaBfqbakqe
  acqDbybakygaBeqcagqkaCsqkakqbahqbavqfatqBAmaDnuDxaCrngveabvBvnjvharnCmabsb
  tcvbxlacxoaJBpsfugviaBDbsSpxBqajxNFraeybahybacybacmKzteypabzBdadvcabzoaevi
  aPgtDKuaEdqfanqdajqhakqcaiqGYuaBuycaxyjaEmyCiaJmfkaBnfcabkGyflrcyvaCsiEsau
  zmauumaDjhjasjhuFfaDhfbaCtfbacfcabfcacfcaefbamfbabfbaefbhcfbaCnfbaefcaifba
  hfbaBcfbaefbaffbabfdahfbaNafcicaLefcjcaByfZcrpafrbaprBQmaBfygagzIfahsbarsc
  ahsbacsbafsfaCkzBhabzEiaBtvdaovcakveacvMiaBfyraCgvfabvRwaBqzBCoahybaeybacy
  bapybaHpqcaqqBpaCxsbveakseacsBEfaCquCyaCjvHmaenbaBbnbacnbabncabnbaknbaenba
  bnbabngabneabnbabnbabnbadnbacnbabncabnbabnbabnbabnbabnbacnbabncaenbahnbaen
  baenbabnbaknbarnfadnbafnbarnCaacnKkaBskeaDwkmapmcaombqbapmbapmwqkallcqdxBf
  lbubmbllmblbmblcmbldmbldmflimblhmblkmcnbvdxjmblbmclcmblkmelcmblkmssbxCeaBa
  mblcmnaBiljmbseajlhacmoagtFyaBhmmqdrgmbqCsmbqcrummqBlmbqfmeqfrmqrmhqirClmb
  qbmbqHambqemcqbrCkmcqenhqfrymsqbsBpqbsDiqfmbnqmbndmbnbmbnbmbnbmbndmbngmcne
  mbnbmcnembnmmcqcrlmBwqCsmkqbrcsctbvcxeabzdynqdaeqdsctbubvcxdaEmmdzeafzDhqe
  ubzgamveabypamqeaCeqiakqgaBoqiaBeqcacxDaamtbxdvjrgsbtisitbsctmsbvmsbtdupsn
  tfubvbxeucxbybubveufrnsgtlucxgvdxcvkugvbrcuivbxbydvxtzuDgvmaoucaevbxdzdvcy
  dadvexczhagvtxeydzhxeydzbabzdxdyiaczhxdyczeaiybzhahyczhaFrxbaCdxBlakxBNoac
  cCLEtfhxcyBgaGDpleybzgaIomcaINqroaLBltEPjaUwfCFwaccHHzxfaGFgzDFLeaccDSYoac
  cDSYoaccDSYoaccDSYoaccDSYoaccDSYoaccDSYoaccDSYoaccDSYoaccDSYoaccbabfBeaDsf
  EyaJghDSFmaHLXicaa"

/-- The version of the code point `n`, in a table of runs. -/
def find : List Nat → Nat → Option Nat
  | k :: v :: t, n => if n < k then (if v = 0 then none else some (v - 1)) else find t (n - k)
  | _, _ => none

end HeaderCheck.Unicode.Age
