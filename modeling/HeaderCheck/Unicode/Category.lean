/-
# General categories

Every code point has one of thirty general categories, and eight groups
bundle them: letters, marks, numbers and so on.  The table lists runs of
code points: a length and the place of the category in `Category.all`.
-/
import HeaderCheck.Unicode.Table

namespace HeaderCheck.Unicode

/-- The general categories, under their two-letter names. -/
inductive Category where
  | cc | cf | cn | co | cs | ll | lm | lo | lt | lu
  | mc | me | mn | nd | nl | no | pc | pd | pe | pf
  | pi | po | ps | sc | sk | sm | so | zl | zp | zs
deriving DecidableEq, Repr

namespace Category

/-- The categories in the order of the table. -/
def all : List Category :=
  [.cc, .cf, .cn, .co, .cs, .ll, .lm, .lo, .lt, .lu,
   .mc, .me, .mn, .nd, .nl, .no, .pc, .pd, .pe, .pf,
   .pi, .po, .ps, .sc, .sk, .sm, .so, .zl, .zp, .zs]

/-- The code points from U+0000 on. -/
def runs : List Nat := table
  "BgabBddvbxdvbwbsbvbzbvbrcvkncvdzcvBajbwbvbsbybqbyBafbwbzbsbzBhabBdbvexbBab
  vbybBabhbubzbbbBabybBabzcpbybfcvbybpbhbtdpbvxjbzhjyfbzifbjbfbjbfbjbfbjbfbj
  bfbjbfbjbfbjbfbjbfbjbfbjbfbjbfbjbfbjbfbjbfbjbfbjbfbjbfbjbfbjbfbjbfbjbfbjbf
  bjbfbjbfbjbfbjbfbjcfbjbfbjbfbjbfbjbfbjbfbjbfbjbfbjcfbjbfbjbfbjbfbjbfbjbfbj
  bfbjbfbjbfbjbfbjbfbjbfbjbfbjbfbjbfbjbfbjbfbjbfbjbfbjbfbjbfbjbfbjbfbjbfcjbf
  bjbfbjdfcjbfbjbfcjbfdjcfejbfcjbfdjdfcjbfcjbfbjbfbjbfcjbfbjcfbjbfcjbfdjbfbj
  bfcjcfbhbjdfehbjbibfbjbibfbjbibfbjbfbjbfbjbfbjbfbjbfbjbfbjbfbjcfbjbfbjbfbj
  bfbjbfbjbfbjbfbjbfbjbfbjcfbjbibfbjbfdjbfbjbfbjbfbjbfbjbfbjbfbjbfbjbfbjbfbj
  bfbjbfbjbfbjbfbjbfbjbfbjbfbjbfbjbfbjbfbjbfbjbfbjbfbjbfbjbfbjbfbjbfbjbfbjbf
  bjbfbjhfcjbfcjcfbjbfejbfbjbfbjbfbjbfbjCrfbhBbfsgeymgoyfghybgbybgryEimbjbfb
  jbfbgbybjbfccbgdfbvbjeccybjbvdjbcbjbccjbfrjbcjjBjfbjcfdjdfbjbfbjbfbjbfbjbf
  bjbfbjbfbjbfbjbfbjbfbjbfbjbfbjffbjbfbzbjbfcjcfBzjBwfbjbfbjbfbjbfbjbfbjbfbj
  bfbjbfbjbfbjbfbjbfbjbfbjbfbjbfbjbfbjbfbjbfbjbfbBafmclbjbfbjbfbjbfbjbfbjbfb
  jbfbjbfbjbfbjbfbjbfbjbfbjbfbjbfbjbfbjbfbjbfbjbfbjbfbjbfbjbfbjbfbjbfbjbfbjb
  fbjbfbjbfbjbfcjbfbjbfbjbfbjbfbjbfbjbfbjcfbjbfbjbfbjbfbjbfbjbfbjbfbjbfbjbfb
  jbfbjbfbjbfbjbfbjbfbjbfbjbfbjbfbjbfbjbfbjbfbjbfbjbfbjbfbjbfbjbfbjbfbjbfbjb
  fbjbfbjbfbjbfbjbfbjbfbjbfbjbfbjbfbjbfbjbfbjbfbjbfbjbfbjbfbjbfbjbfbjbfbjbfb
  jbfbjbfbjbfbcBmjccbggvBpfbvbrcccBabxbcBtmbrbmbvcmbvcmbvbmicBbhecehcvlcgbdz
  cvbxcvcBalmbvbbdvBghbgkhvmknevchbmDvhbvbhhmbbbBagmcgcmbBaemchkndhcBabhovbc
  bbbhbmBehBbmccDlhlmbhocknBhhjmcgbBadvbgccbmcxwhembgjmbgdmbgfmccpvbczhdmccb
  vbclhfcyhbyghbccbgcimBphbgymbbBgmbkCchbmbkbmbhdkimekbmckbhhmkhcmcvknbvbgph
  bmckbcihccchccwhbchhbcbhdcehccbmbhdkemccckccckbmbhicbkecchbcdhcmccknchcxgp
  bBabxbhbvbmcccmbkbcghecchccwhbchhbcchbcchbcchccbmbcdkcmeccmccdmdcbmhcehbcb
  hhckncmdhbmbvkccmbkbcjhbcdhbcwhbchhbcchbcfhccbmbhdkfmbccmbkbcckbmccbhpcchc
  mccknbvbxhcbhgmbcbmckbcihccchccwhbchhbcchbcfhccbmbhbkbmbkemccckccckbmhccmb
  kecchbcdhcmccknbBabhgpkcbmbhbcghdcdhbcehdcchbcbhbcchdcchdcdhdcmhecckbmckdc
  dkbcdkbmccbhgcbkockndpgBabxbBafcbmdkbmihbcdhbcxhbcqhccbmbhdmekbcdmbcemhccm
  bcdhccbhccchcmccknhcbvhpbBabhbmckbvihbcdhbcxhbckhbcfhccbmbhbkbmfkbcbmckbcc
  kcmhcckgcchbcchcmccknbcchbkmccmckjhbcdhbcBphcmbhdkembcdkbcdkbmbhbBaecdhbkh
  pdhcmccknjpbBaghbcbmckbcshdcyhbcjhbcbhcchhdcbmecdkdmbcbmbcikgcknccckbvmcBw
  hbmchhmecbxghbgimbvkncvBlcchbcbhbcfhbcyhbcbhbckhbmchjmbhccfhbcbgbchmbckncc
  ehBgcbhdBapvbBabvdBacmgBaknkpbBabmbBabmbBabmbwbsbwbsckihbcBkhecombkfmbvcmf
  hlmbcBkmbciBabmgBabccBafveBacvBlcBrhckembkgmbkcmckcmbhkngvghckcmehdmbhdkch
  hkdhemnhbmckcmgkbmbhbkkndkbmcBaBmjbcbjfcbjccBrfbvbgdfMrhbcehcchhbcbhbcehcc
  BphbcehccBhhbcehcchhbcbhbcehccphbcCfhbcehccCphccdmjvupdcqhkBagcDijccgfccbr
  XwhbBabvrhbBdBahbwbsdcCxhdvdoihhcshdmbkjcthcmbkcvjcshcmmcnhbcdhbccmmcCahcm
  bkhmikbmcklmdvbgdvbxbhbmcckngckpgcgvbrevdmbbbmkngcBjhbgCbhhcfhcmBihbmbhfcC
  shkcBfhbcdmekcmdkecckbmgkdmecbBadccvknBehccfhlcBshecBahgcknbpdcBiBaxhcmckb
  mcccvCbhbkbmbkhmbcbmbkbmckimgkkmccbmkngckngchvbggvccomblqmBxcembkBvhbmbkfm
  bkbmfkbmckihdcknhvkBajmjBacvbccmbkBehbkemckcmbkdmchknBshbmbkcmdkbmbkdmckic
  evBkhikimckcmdcfvkndcdhknBehggcvjfhcBrjccdjivicdmbvnmbkhmehbmghbmchbkcmbhf
  cBsfClgnfbgBifBlgCmmbjbfbjbfbjbfbjbfbjbfbjbfbjbfbjbfbjbfbjbfbjbfbjbfbjbfbj
  bfbjbfbjbfbjbfbjbfbjbfbjbfbjbfbjbfbjbfbjbfbjbfbjbfbjbfbjbfbjbfbjbfbjbfbjbf
  bjbfbjbfbjbfbjbfbjbfbjbfbjbfbjbfbjbfbjbfbjbfbjbfbjbfbjbfbjbfbjbfbjbfbjbfbj
  bfbjbfbjbfbjbfbjbfbjbfbjbfbjbfbjbfbjbfbjbfbjbfbjbfbjbfbjbfbjbfbjbfbjbfbjbf
  bjbfbjbfbjbfbjbfbjbfbjjfbjbfbjbfbjbfbjbfbjbfbjbfbjbfbjbfbjbfbjbfbjbfbjbfbj
  bfbjbfbjbfbjbfbjbfbjbfbjbfbjbfbjbfbjbfbjbfbjbfbjbfbjbfbjbfbjbfbjbfbjbfbjbf
  bjbfbjbfbjbfbjbfbjbfbjbfbjbfbjbfbjbfbjbfbjbfbjbfbjbfbjbfbjbfbjbfbjbfbjjfij
  gfccgjccifijifijgfccgjccifbcbjbcbjbcbjbcbjifijofccifiiifiiifiiffbccfejbiby
  bfdydfbccfejbidyefcccfejbcdyiffjdyccdfbccfejbicybclBdfbgrcvbubtbwcubtbwbui
  vbBbbBcfbbBdjvbubtevcqdvbzbwbslvbzbvbqkvbBdfbbckbbpbgccgpdzbwbsbgkpdzbwbsb
  cngdcBhxpcnmelbmdlmmpccBabjeBabjcBabfdjcfdjbfbBabjcBabzfjgBabjbBabjbBabjbB
  aejbBabfejbfehbfcBacfcjfzbjefbBabzcBabfbBaqpBjobjbfeobpcBaecfzfBaczeBabzcB
  abzcBabzhBabzBfBaczcBabzbBabzBfBaKiziBabwbsbwbsuBaczhBabwbsDdBabzBeBazzBoB
  agzCrBazclBavcCipDaBawpHbBabzjBabzCcBaizEhBabzJoBabwbsbwbsbwbsbwbsbwbsbwbs
  bwbsBepBsBafzbwbsBfzbwbsbwbsbwbsbwbsbwbsqzJwBaFbzbwbsbwbsbwbsbwbsbwbsbwbsb
  wbsbwbsbwbsbwbsbwbsClzbwbsbwbsBgzbwbsJyzBwBavzcBagzBnBaccBgBabcEbBaBwjBwfb
  jbfdjcfbjbfbjbfbjbfejbfbjcfbjgfcgdjbfbjbfbjbfbjbfbjbfbjbfbjbfbjbfbjbfbjbfb
  jbfbjbfbjbfbjbfbjbfbjbfbjbfbjbfbjbfbjbfbjbfbjbfbjbfbjbfbjbfbjbfbjbfbjbfbjb
  fbjbfbjbfbjbfbjbfbjbfbjbfbjbfbjbfbjbfbjbfbjbfbjbfbjbfbjbfbjbfbjbfbjbfbjbfb
  jbfbjbfbjcfgBabjbfbjbfdmbjbffcevbpcvBmfbcbffcbfccCehhcbgbvocbmxhjchhbchhbc
  hhbchhbchhbchhbchhbchhbcBgmcvbubtbubtdvbubtbvbubtjvbrcvbrbvbubtcvbubtbwbsb
  wbsbwbsbwbsfvbgkvcrevbrbvbwnvcBadvbwbsbwbsbwbsbwbsbrBicBaBabcDlBamcIgBaBac
  mBaecbBddvbBabgbhbobwbsbwbsbwbsbwbsbwbscBabwbsbwbsbwbsbwbsbrbwcsbBajoemckb
  rfgcBadobgbhbvcBabcDihcccmcycgbhbrDmhbvdgbhfcBrhbcDqhbccBaepkBaBghBkBamcqh
  BfBabckpBeBaipbBappBgBakpBnBappMiBaJTohCmBaBFCfhbgBRzhdcCdBajcBohggcvKihbg
  dvqhknchucbjbfbjbfbjbfbjbfbjbfbjbfbjbfbjbfbjbfbjbfbjbfbjbfbjbfbjbfbjbfbjbf
  bjbfbjbfbjbfbjbfbjbfbjbfbjbfbhbmdlbvkmbvbgbjbfbjbfbjbfbjbfbjbfbjbfbjbfbjbf
  bjbfbjbfbjbfbjbfbjbfbjbfcgcmCshkocmgvicxyjgcybjbfbjbfbjbfbjbfbjbfbjbfbjdfb
  jbfbjbfbjbfbjbfbjbfbjbfbjbfbjbfbjbfbjbfbjbfbjbfbjbfbjbfbjbfbjbfbjbfbjbfbjb
  fbjbfbjbfbjbfbjbfbjbfbjbfbjbfbjbfbjbfbjbfbjbfbjbfbgifbjbfbjbfcjbfbjbfbjbfb
  jbfbjbfbgcybjbfbjbfbhbjbfbjdfbjbfbjbfbjbfbjbfbjbfbjbfbjbfbjbfbjbfbjbffjbff
  jbfbjbfbjbfbjbfbjbfbjbfbjbfbjbfejbfbjbffcbjbfbcbfbcbfbjbfbjbfycdgbjbfbhcgb
  fhhbmdhbmehbmxhckcmbkeBabmdcgpcBabxbBagcCahevicckByhqkcmiccvkngcsmghdvbhbv
  chbmknBchimcvxhlmcklcbvBdhdcdmbkBvhbmckemckcmdknvbcbgkneccvfhbmbgjhknfhbcB
  phgmckcmckcmjcdhbmihbmbkccknccevqhbgghdBabhbkbmbkByhbmbhdmchcmfhcmbhbmbhyc
  chbgcvlhbkcmckcvbhcgbkbmkcghccghccghjchhbchhbcBrfbyegjfbgcyecDcfBjhckbmckb
  mckbvbkbmcckngcQNshmcxhecBxhecDAueJMedOchccEchBmchfmcfffcbhbmkhbznhbcfhbcb
  hbcchbcchbcEehryqcNzhbsbwqBaCmhccCchhcbBaBgcmhbxdBaqmhvbwbsbvgcqmbvcrcqbwb
  sbwbsbwbsbwbsbwbsbwbsbwbsbwbscvbwbsevdqdvbcevbrbwbsbwbsbwbsdvbzbrdzbcbvbxc
  vecfhbcFfhccbbbcdvbxdvbwbsbvbzbvbrcvkncvdzcvBajbwbvbsbybqbyBafbwbzbsbzbwbs
  bvbwbscvkhbgBthcgBfhdcghccghccghccdhdccxbzbybBacxbcbBaezcBakcdbcBaccmhbcBa
  hbcthbcchbcphccohBicEthfcdvecBtpdcjBaCboeprBacpdBabcnBadcbBaBvcBtBabmFacBd
  hdcBxhpcbmBbpecBghepjcuhboihbofcBmhfmfcBehbcbvBkhecihbvfoBqcBojBofDahcckng
  cBkjecBkfecBohicCahlcbvljbcpjbchjbccjbclfbcpfbchfbccfCpcLzhjcwhkcihycggbcB
  qgbcjgCrcghccbhbcBshbcchdcbhccxhbcbvipxhcBahpBfhicjpBwcthbcchfcfpwhgpdcbvB
  ahfcbvCmcCeheccpchqpccBupbhdmbccmfcemehbcdhbcBdhccdmecbmjphcjvhcBdhcpbvBdh
  dpBgcihbBaBchcmecfphvjcCchdchvwhccipthfcipshhcevmchpDccCvhCdcBzjncBzfhcgpB
  khemicknLicBfpbcBqhbccmbrccchCxcdmBdhkpbhicwhlmepfvwcshemevBmcvhhpucxhjcbk
  bmbkCbhpmhvecupknbmchcmbhjcdmbkBthdkemckcmcvbbevbmkcbbcczhhckngcdmBkhfmbki
  mbcknevbhckbhicBjhbmcvbhjccmbkBwhdkjmckehevembvbkbmknbhbvbhdvbcuplcshbczhd
  kdmckbmbkcmgvbmchbmCkchhbcbhbcehbcphbckhbvgcBvhbmdkimfckngccmckbcihccchccw
  hbchhbcchbcfhbccmbhckbmekccckccdkccbhgcbkfcfhckcchmdcfmFjcCbhdkimckdmbkbme
  hfvkncvbcbvbmdhBecBwhdkgmbkbmekcmbkcmchbvbhicknGkcBvhdkemccekcmbkcmxvehcmB
  icBwhdkimckbmbkcmdvbhlckngcnvtcBrhbmbkbmckgmbkbmbhbvgcknCccBbhccdmckembkfm
  eckncpdvbBahhHdcBshdkjmbkcmbvDwcBgjBgfknjpmcihccbhccihbcchbcyhgkbcckcccmbk
  bmbhbkbhbkbmdvjcknCscihccBnhdkemcccmekbmbhbvbhbkBbcbhkmBohgmbkbhemivbmicbh
  gmckdmBuhnmbkcmdvbhfvncCvhhckvJmcjhbcBlhbkhmbcgmbkbmbhfvkckntpdccvBehccwmb
  cbkhmbkcmbkcmCvchhbcchbcBmhgmdcbmbccmbchmbhbmickngcghbcchbcBghfkbccmbcckbm
  bkbmbhhcknLycthcmckcvhccmbhbknhbcBihckfmdcckbmbkbmnvknDicbhpcvpiBaexrBancb
  vBJmhDycEhobcfvlcHohDXkcDthcvncBPghqbbmghpmFYgcWlhMUbcVxhhcBfhbckneccvDbhb
  ckngcBehccfmbvkcBwhhmfveBaegbvbBakcknbchpbcvhfcthBAmcBgjBgfxpevDxcCxhecbmb
  hCdkhcemngCmccgbvbgbmlcckocJCahicBVqhBqcjhNFrcegbchgbccgbcLfhpcbhBdcdhccbh
  ocehicPghDKucEdhfcnhdcjhhckhccbBacmbvebGYucBumccxmjcEmBaCicJmBakcBnBaccCiB
  ackdmdBagkibimcBahmBeBaemCjBavcCoBadmbBaEscupmcupmcDjBajczpFfcBajBafBajhfb
  csfBajBafbjbccjccbjcccjccejbcijefbcbfbchfbclfBajBafcjbcejccijbchjbcBafcjbc
  ejbcfjbcbjdchjbcBafBajBafBajBafBajBafBajBafBajBafBajBcfcczjbzzfbzgfzjbzzfb
  zgfzjbzzfbzgfzjbzzfbzgfzjbzzfbzgfbjbfccBynTsBaCdmeBaBymiBabmoBabmcBafvpcfm
  bcpmBQmckfbhufgcgfIfchmbcrmcchmbccmbcfmfcCkgBhcbmEicBthdchmhgccknecbhbBaMi
  cBehbmrcBshemknfcbxRwcBbhbgemknBCochhbcehbcchbcphbcHphccjphmBpcBijBifhmbge
  ckneccvBEfcChpbBadpbxepCycBtpbBappHmcehbcBbhbcchbcbhccbhbckhbcehbcbhbcbhgc
  bhecbhbcbhbcbhbcdhbcchbcbhccbhbcbhbcbhbcbhbcbhbcchbcbhccehbchhbcehbcehbcbh
  bckhbcrhfcdhbcfhbcrhCacczKkcBsBaecDwBamcpBaccpBabcpBabcBlBakcnpGfBaCecBdBa
  ncBsBaecjBahccBaocgBaFycJrBafyBCaBaecrBadcnBadcEpBaecDrBagcmBaecbBapcmBaec
  CeBaickBagcBoBaicBeBacccBaDacNcBamcoBaccnBadcjBahcBuBabchBaicoBaecjBahcjBa
  hcFrBabcCdBaBlcknBNqcCLFchBgcGDuhgcIohccINqhocLBlhEPjcUwhCFycHHzhfcGFghBOM
  XlcbbBecDsbEycJgmDSFocDSYodccDSYodcc"

/-- The category of the code point `n`, in a table of runs. -/
def find : List Nat → Nat → Category
  | k :: v :: t, n => if n < k then all.getD v cn else find t (n - k)
  | _, _ => cn

/-- The names of categories and of groups of them, in the normal form of
property names. -/
def named : List (List String × List Category) :=
  [(["c", "other"], [.cc, .cf, .cn, .co, .cs]),
   (["cc", "control", "cntrl"], [.cc]),
   (["cf", "format"], [.cf]),
   (["cn", "unassigned"], [.cn]),
   (["co", "privateuse"], [.co]),
   (["cs", "surrogate"], [.cs]),
   (["l", "letter"], [.ll, .lm, .lo, .lt, .lu]),
   (["lc", "casedletter"], [.ll, .lt, .lu]),
   (["ll", "lowercaseletter"], [.ll]),
   (["lm", "modifierletter"], [.lm]),
   (["lo", "otherletter"], [.lo]),
   (["lt", "titlecaseletter"], [.lt]),
   (["lu", "uppercaseletter"], [.lu]),
   (["m", "mark", "combiningmark"], [.mc, .me, .mn]),
   (["mc", "spacingmark"], [.mc]),
   (["me", "enclosingmark"], [.me]),
   (["mn", "nonspacingmark"], [.mn]),
   (["n", "number"], [.nd, .nl, .no]),
   (["nd", "decimalnumber", "digit"], [.nd]),
   (["nl", "letternumber"], [.nl]),
   (["no", "othernumber"], [.no]),
   (["p", "punctuation", "punct"], [.pc, .pd, .pe, .pf, .pi, .po, .ps]),
   (["pc", "connectorpunctuation"], [.pc]),
   (["pd", "dashpunctuation"], [.pd]),
   (["pe", "closepunctuation"], [.pe]),
   (["pf", "finalpunctuation"], [.pf]),
   (["pi", "initialpunctuation"], [.pi]),
   (["po", "otherpunctuation"], [.po]),
   (["ps", "openpunctuation"], [.ps]),
   (["s", "symbol"], [.sc, .sk, .sm, .so]),
   (["sc", "currencysymbol"], [.sc]),
   (["sk", "modifiersymbol"], [.sk]),
   (["sm", "mathsymbol"], [.sm]),
   (["so", "othersymbol"], [.so]),
   (["z", "separator"], [.zl, .zp, .zs]),
   (["zl", "lineseparator"], [.zl]),
   (["zp", "paragraphseparator"], [.zp]),
   (["zs", "spaceseparator"], [.zs])]

end Category

/-- The general category of a character. -/
def category (c : Char) : Category :=
  Category.find Category.runs c.toNat

end HeaderCheck.Unicode
