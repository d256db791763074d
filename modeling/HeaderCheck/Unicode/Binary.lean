/-
# Binary properties

Properties that a character has or has not, each with its names and the
run lengths of its code points.  The few that the library itself asks for
have definitions of their own; the rest are there to be named in patterns.
-/
import HeaderCheck.Unicode.Table

namespace HeaderCheck.Unicode

/-- A property that a character has or has not. -/
structure BinaryProperty where
  names : List String
  runs : List Nat

namespace BinaryProperty

/-- The property `ASCII_Hex_Digit`. -/
def asciiHexDigit : BinaryProperty where
  names := ["ahex", "asciihexdigit"]
  runs := table
    "BwkhgBag"

/-- The property `Alphabetic`. -/
def alphabetic : BinaryProperty where
  names := ["alpha", "alphabetic"]
  runs := table
    "CnBagBaBvbkbebfxbBfbRqemofhbbbDibBqfbccebbgbbdbbbubDfbFjiGkbBmcbgBpBnobb
    bcbcbbiBbeeBdlfCebhoDybieiedkdcbqBwnDxyBhjcebfycttzhlfybgrBqkmdhgCybqbde
    pntbicccwbhbbdediccccbbibecbfmckbedbgeccwbhbcbcbcefecccebhebbrgldbjbdbwb
    hbcbfdjbdbcdbpeveedbicccwbhbcbfdiccccjcecbfnbqcbgddbedcbbbcdcdddmefddbdd
    bgbBonbdbxbqdibdbdicbdcbceBcebibdbxbkbfdibdbdicgcbendmnbdbBpcibdbdbbfehf
    wgbdbsdybjbbchigbbbiscnCgfhgbBzcbbbfbybbbtbdcfbbgboeBgbClibBketeqbBkCpCd
    bbcfqCmkecBmbbfbcBrbMvbechbbbecBpbecBhbechbbbecpbCfbecCpBlqqDicgdXwcrbBa
    fCxdlhulvmumnbdbcmCactobebCpDlhBrfCskBfbmejxBecflBseBaCcBceClcuBybxcldBx
    CabpbiBzBqcekBsbloCdwdkBkcjhBrcdBpebgbcdbfHkBnolKscgcBmcgcibbbbbbbBfcCbb
    hbbddbhdecgenfdbhEmbnbqnDxbebckbbdfgbbbbbbeblceffebrBpBFhCaCRuIvgedcmBmb
    bfbcCehbqxjhbhbhbhbhbhbhbhbBgBvbSbdzjhfcfeDigdbDmbefBrbDqrBgBwqTsJToCmBG
    UfCpBucKjdqkcuBvfidEjBnjcDzcCmfcbbbfyubBhyCamCqbbBsgdbbdkBhfBjnBddBzbmpb
    qqkfbCdjosxdCrbbbbydcqcelgcgcgjhbhbBrbogEtvQNsmxeBxMNcOccEcBmhmffmbnbfbb
    bcbcbEeBhNzsCmcCcBomEmfbFfBkBagBalDldgcgcgcdBjmbBabtbcbpcoBiEtCrCbKhBddB
    xBvBgnBefBrfBecBkeibfBqGcsBkeBkeBoiCamlbpbhbcblbpbhbcCpLzjwkiygbBqbjCrgc
    bbBsbcdbcxkxjBfCntbckwkBaCsCegcCmebcfibdbBdBqBddBdBjibBcBbCckwktnsEgCvCd
    BznBznBoNgBqbcdcDaBdkbiwBqsBuvBbxjCsBrfkCfjbnzxBzreiBjdbjCmbejckbbbBjsbB
    icbgeCkhbbbebpbkhCfxebicccwbhbcbfdiccccdbgbfhGaCobdbeudBeCoccbbHcCcchzgB
    iClbbdbChCccbCtBbcovhHdCfDzCmBficbcibcbBebcccceDpicBucgbbbcBbBzckrCufbsC
    vKdjbBtbhbbBxBecwboCvhbcbBsdbbcbdbbccygbcbBlbcbebbMpxjrbBpddEhbDbBJmDyEh
    rHoDXkDtpBPgrgFYvWlMUbVxhBfrDbrBesBwqeBfvftBAmCmEyCxeCfhrCmcbbmcoJCaiBVq
    BqjNFrebhbcbLfpbBddcboeiPgDKuEdfndjhkebIWfDhbCtbccbcccebmbbbhbCnbecibhbB
    cbebfbbdhbNcczbzbBfbzbBfbzbBfbzbBfbzbiCSyBfggIfhbrchbcbffCkBhbEiBtkhqbMj
    BesBsSqBcBDchbebcbpbHpChCqdbdbBUiebBbbcbbcbbkbebbbbgbebbbbbbdbcbbcbbbbbb
    bbbbcbbcebhbebebbbkbrfdbfbrYeBagBagBaFMkCLFcBgGDugIocINqoLBlEPjUwCFyHHzf
    GFg"

/-- The property `Bidi_Control`. -/
def bidiControl : BinaryProperty where
  names := ["bidic", "bidicontrol"]
  runs := table
    "CIebJVlcBafCde"

/-- The property `Bidi_Mirrored`. -/
def bidiMirrored : BinaryProperty where
  names := ["bidim", "bidimirrored"]
  runs := table
    "BocsbbbBcbbbBdbbbBtbpbFMseCUncDQqckcCccocGvbHkedgdbdcdebebbbbejfbbsfejcb
    bbicBfcefbjcctfcjfcceycqieuchcBPtoCwbcebcbdfefddoPnwcgboibhgdbefbccfebbd
    cckgccmtbecbbbcbbefcgdyclceebccceBrcibBofbbbdffdebdfbbJwbTvedcbcocckBriQ
    lkciDACrgfcGgcsbbbBcbbbBdbbbbcbcDDPnbCfbCfbCfbCfb"

/-- The property `Case_Ignorable`. -/
def caseIgnorable : BinaryProperty where
  names := ["ci", "caseignorable"]
  runs := table
    "BnbgblbBjbbbCtbebbbebccTjHkecebjcbbJrhHzbfbBxBtbbbcbcbbBsblgklbbBjbkvqbD
    xibkbeBhbbbBeBbDnlCglebcbyyBrdBsbhcgiBpCgCdbbbeiebdhkcnbpbCgbeeibucBabcc
    CfbececcddbBecdblcCfbefbcebucwgbbCgbcbbeibhclcBebCjbmbBybdbCdbbdfdbehclc
    BdbCgbcbgbfcucBccCfceeibucBdbCubhdbbDmbchljDubcjjbbhCvcBbbbbbbCdobfbcflb
    BkjbDyebgbccczcedqenbccgbpbDqbXkdBKkdBdcBecBecCmcbhibcldbfbBtfBzbCncBibE
    odecjbgdIlccbCgbbhbbbbcigkcbBnbiBfBxeBwbbfbbfbBojmcBgeccbdCebbcdbbdCgicc
    CmgDedbnbhebgbdcByClnbBiDxRdbbdldndndncmfickbcbcfBxfbkbbnbqnBzBhEJrcEjdE
    vbpbDsBgBvbSbbBkedffbDpgDpdBQBubBWcgKkbDuebkbbBceDccoBiDabxdDzddcibdbebz
    cfbFvcBasnbBmizlBudBwbceccrbvcCogccccmbibBjblbBzbbdccfcbbBbbocfcbbDwfjdE
    rbcbebBDZsbFrrWbqdbmqBibcbGnbhbgblbBjbbbBvbBtcCpbvdTtbIsbFtfBNpgbBqbjWkd
    bcfeBodebGjcWbeOxcDcdCslBxeEtbCcpBpbcckdBxecccbebkbBydBkfbiCkbmcCajkecbD
    rdcbbcgbcbGbbdivcCfcdbBlhdfHnicdbbxbDggbbecbcJeegcbcBbcDhicbbcEcbbbcgbbD
    xdcebfJzjbcJwcbbebFoeccebBgkBogceibjgcdBunbcPqhbgbbDewchbcbcEsgdbbcbhbbC
    ucdbbbNjclcCaffbbbHYbrgpURqfChhjeBNvbClrCmcbcYGpebhbcEUgcbeGYuBucxUydjqc
    hBeeFsdCYdCdeByibobwfbpCAihbrchbcbffCkBhbGeoOebCjeTnfBMehEfiEBffBSXXpbBe
    DsEyJg"

/-- The property `Cased`. -/
def cased : BinaryProperty where
  names := ["cased"]
  runs := table
    "CnBagBaBvbkbebfxbBfbHnbeeIabBkhcBefDsbBqecccebbgbbdbbbubDfbFjiGkbBmjBpEF
    fBmbbfbcBrbeZwDicgDFujhBrcdCmHkCmKscgcBmcgcibbbbbbbBfcCbbhbbddbhdecgenfd
    bhEmbnbqnDxbebckbbdfgbbbbbbebgebceffebrBgdcBFlCaCRuIvgedcmBmbbfbBTWcBusB
    eFcDydebChfcbbbfyfbdBFpBrbogDcBEAihmfBNtBagBaBTtDcDsBkeBkEmlbpbhbcblbpbh
    bcRjbcdbBqbjBUzBznBzEKzCmBGIqCmBMLkDhbCtbccbcccebmbbbhbCnbecibhbBcbebfbb
    dhbNcczbzbBfbzbBfbzbBfbzbBfbzbiCSykbuggKbCkDGkCqDAaBagBagBa"

/-- The property `Changes_When_Casefolded`. -/
def changesWhenCasefolded : BinaryProperty where
  names := ["cwcf", "changeswhencasefolded"]
  runs := table
    "CnBaDmbkxbiBgbbbbbbbbbbbbbbbbbbbbbbbbbbbbbbbbbbbbbbbbbbbbbbbbbbbbbbbcbbb
    bbbbbbbbbbbbbcbbbbbbbbbbbbbbbbbbbbbbbbbbbbbbbbbbbbbbbbbbbbbcbbbbbbbcbbbc
    bdcebcbddcbcbbbbbcbbcbbcbdbbbcdbhcbcbcbbbbbbbbbbbbbbbbcbbbbbbbbbbbbbbbbb
    ccbbbdbbbbbbbbbbbbbbbbbbbbbbbbbbbbbbbbbbbbbbbbbbbbbbbbbbbbbbbbbbhcbccbbe
    bbbbbbbbJmbBqbbbdbibgbbdbbbcbrbjwbmddcbbbbbbbbbbbbbbbbbbbbbbbbbcccbbbccB
    zBwbbbbbbbbbbbbbbbbbbbbbbbbbbbbbbbbbjbbbbbbbbbbbbbbbbbbbbbbbbbbbbbbbbbbb
    bbbbbbbbbbbbbbbbbbbcbbbbbbbbbbbbcbbbbbbbbbbbbbbbbbbbbbbbbbbbbbbbbbbbbbbb
    bbbbbbbbbbbbbbbbbbbbbbbbbbbbbbbbbbbbbbbbbbbbbbbbbbbbbbbbcBmBwbEFgBmbbfbB
    FegDFujhBrcdMibbbbbbbbbbbbbbbbbbbbbbbbbbbbbbbbbbbbbbbbbbbbbbbbbbbbbbbbbb
    bbbbbbbbbbbbbbbbbbbbbbbbbbbbbbbbbbbbbbbbbbbbbbbbbbbbbbbbbbbbbbbbbbbbbbbb
    bbbbbbbbbbbbbbbbbbbfccbbbbbbbbbbbbbbbbbbbbbbbbbbbbbbbbbbbbbbbbbbbbbbbbbb
    bbbbbbbbbbbbbbbbbbbbbbbbbbbbbbbbbbbbbbbbbbbbbbbjiigkiiiiglbbbbbbbiiqBwcd
    cgfdcglemffdcgLlbdcgbBtqtbBFmBaCSuBwBwbbdcbbbbbbebbcbidbbbbbbbbbbbbbbbbb
    bbbbbbbbbbbbbbbbbbbbbbbbbbbbbbbbbbbbbbbbbbbbbbbbbbbbbbbbbbbbbbbbbbbbbbbb
    bbbbbbbbbibbbebBTYjbbbbbbbbbbbbbbbbbbbbbbbbbbbbbbbbbbbbbbbbbbbbbtbbbbbbb
    bbbbbbbbbbbbbbbbbbbbFfbbbbbbbbbbbbbdbbbbbbbbbbbbbbbbbbbbbbbbbbbbbbbbbbbb
    bbbbbbbbbbbbbbbbbbbbbbbbbkbbbbcbbbbbbbbebbbcbbbdbbbbbbbbbbbbbbbbbbbbfbfb
    bbbbbbbbbbbbbbebbgbfbbbBcbBIgDcBEAihmfBNtBaBUzBoFgBkGalbpbhbcCQcBzENlBgB
    GJwBgBULkBi"

/-- The property `Changes_When_Casemapped`. -/
def changesWhenCasemapped : BinaryProperty where
  names := ["cwcm", "changeswhencasemapped"]
  runs := table
    "CnBagBaCgbkxbBfbCmbDgbnbococcbbeDpbsgBbbcbbbcdcbbbcbfcbbccbhbcbbcdgfbkcG
    kbBqeccddbbgbbdbbbubBvdBhbfbFdiGkbBmkBnEFgBmbbfbcBrcdZwDicgDFujhBrcdHdbd
    bqbEjGacbbEocgcBmcgcibbbbbbbBfcCbbhbbddbhdecgenfdbhLlbdcgbBbbrBgdcBFlCaC
    RuEjbcbchDyhedcmBmbbfbBTWcBusBcFeocCkjpddcfbzbBbfceeBbcBHcbBcDcBEAihmfBN
    tBagBaBTtDcDsBkeBkEmlbpbhbcblbpbhbcCOpBznBzEKzCmBGIqCmBUKeCq"

/-- The property `Changes_When_Lowercased`. -/
def changesWhenLowercased : BinaryProperty where
  names := ["cwl", "changeswhenlowercased"]
  runs := table
    "CnBaDxxbhBhbbbbbbbbbbbbbbbbbbbbbbbbbbbbbbbbbbbbbbbbbbbbbbbbbbbbbbbcbbbbb
    bbbbbbbbbbcbbbbbbbbbbbbbbbbbbbbbbbbbbbbbbbbbbbbbbbbbbbbbbcbbbbdcbbbcbdce
    bcbddcbcbbbbbcbbcbbcbdbbbcdbhcbcbcbbbbbbbbbbbbbbbbcbbbbbbbbbbbbbbbbbccbb
    bdbbbbbbbbbbbbbbbbbbbbbbbbbbbbbbbbbbbbbbbbbbbbbbbbbbbbbbbbbbhcbccbbebbbb
    bbbbLdbbbdbibgbbdbbbcbrbjBjbibbbbbbbbbbbbbbbbbbbbbbbfbcbbccBzBwbbbbbbbbb
    bbbbbbbbbbbbbbbbbbbbbbbbjbbbbbbbbbbbbbbbbbbbbbbbbbbbbbbbbbbbbbbbbbbbbbbb
    bbbbbbbcbbbbbbbbbbbbcbbbbbbbbbbbbbbbbbbbbbbbbbbbbbbbbbbbbbbbbbbbbbbbbbbb
    bbbbbbbbbbbbbbbbbbbbbbbbbbbbbbbbbbbbbbbbbbbbcBmEHdBmbbfbBBuDiDGsBrcdMibb
    bbbbbbbbbbbbbbbbbbbbbbbbbbbbbbbbbbbbbbbbbbbbbbbbbbbbbbbbbbbbbbbbbbbbbbbb
    bbbbbbbbbbbbbbbbbbbbbbbbbbbbbbbbbbbbbbbbbbbbbbbbbbbbbbbbbbbbbbbbbbbbbbbb
    bbbjbbbbbbbbbbbbbbbbbbbbbbbbbbbbbbbbbbbbbbbbbbbbbbbbbbbbbbbbbbbbbbbbbbbb
    bbbbbbbbbbbbbbbbbbbbbbbbbbbbbjiigkiiiiglbbbbbbbiiyiiiiiiflflemflfLlbdcgb
    BtqtbBFmBaCSuBwBwbbdcbbbbbbebbcbidbbbbbbbbbbbbbbbbbbbbbbbbbbbbbbbbbbbbbb
    bbbbbbbbbbbbbbbbbbbbbbbbbbbbbbbbbbbbbbbbbbbbbbbbbbbbbbbbbbbbibbbebBTYjbb
    bbbbbbbbbbbbbbbbbbbbbbbbbbbbbbbbbbbbbbbbbbbtbbbbbbbbbbbbbbbbbbbbbbbbbbbF
    fbbbbbbbbbbbbbdbbbbbbbbbbbbbbbbbbbbbbbbbbbbbbbbbbbbbbbbbbbbbbbbbbbbbbbbb
    bbbbkbbbbcbbbbbbbbebbbcbbbdbbbbbbbbbbbbbbbbbbbbfbfbbbbbbbbbbbbbbbebbgbfb
    bbBcbBHAhBaBUzBoFgBkGalbpbhbcCQcBzENlBgBGJwBgBULkBi"

/-- The property `Changes_When_Titlecased`. -/
def changesWhenTitlecased : BinaryProperty where
  names := ["cwt", "changeswhentitlecased"]
  runs := table
    "DtBaCgbBpybibbbbbbbbbbbbbbbbbbbbbbbbbbbbbbbbbbbbbbbbbbbbbbbbbbbbbbbbcbbb
    bbbbbbbbbbbcbbbbbbbbbbbbbbbbbbbbbbbbbbbbbbbbbbbbbbbbbbbbbbcbbbbdcbbbcbdb
    fbcbdcdbcbbbbbcbebcbdbbbcbdbbbebbcbcbbbbbbbbbbbbbbbbbcbbbbbbbbbbbbbbbbbd
    bbbbdbbbbbbbbbbbbbbbbbbbbbbbbbbbbbbbbbbbbbbbdbbbbbbbbbbbbbbbbbibccbbebbb
    bbbbbgbcbbbcdcbbbcbfcbbccbhbcbbcdgfbkcGkbBrbbbdbddsbBbBjbcddbbbbbbbbbbbb
    bbbbbbbbbbbfbbcbcbCaBwbbbbbbbbbbbbbbbbbbbbbbbbbbbbbbbbbbjbbbbbbbbbbbbbbb
    bbbbbbbbbbbbbbbbbbbbbbbbbbbbbbbbbbbbbbcbbbbbbbbbbbbcbbbbbbbbbbbbbbbbbbbb
    bbbbbbbbbbbbbbbbbbbbbbbbbbbbbbbbbbbbbbbbbbbbbbbbbbbbbbbbbbbbbbbbbbbbbbbb
    bbbbBxBnFMegDFujJgbdbqbEkbbbbbbbbbbbbbbbbbbbbbbbbbbbbbbbbbbbbbbbbbbbbbbb
    bbbbbbbbbbbbbbbbbbbbbbbbbbbbbbbbbbbbbbbbbbbbbbbbbbbbbbbbbbbbbbbbbbbbbbbb
    bbbbbbbbbbbbbbbbbbbbbbbbbbbbbhfbbbbbbbbbbbbbbbbbbbbbbbbbbbbbbbbbbbbbbbbb
    bbbbbbbbbbbbbbbbbbbbbbbbbbbbbbbbbbbbbbbbbbbbbbbbbbbbbjigkiiiigkiiiiociii
    iiifbcgbddbciecciikdbcNebBhqebBGlBaCTqBwbbdcbbbbbbgbcbkbbbbbbbbbbbbbbbbb
    bbbbbbbbbbbbbbbbbbbbbbbbbbbbbbbbbbbbbbbbbbbbbbbbbbbbbbbbbbbbbbbbbbbbbbbb
    bbbbbbbbbbibbbebmBmbbfbBTWdbbbbbbbbbbbbbbbbbbbbbbbbbbbbbbbbbbbbbbbbbbbbb
    tbbbbbbbbbbbbbbbbbbbbbbbbbbbFfbbbbbbbbbbbbbdbbbbbbbbbbbbbbbbbbbbbbbbbbbb
    bbbbbbbbbbbbbbbbbbbbbbbbbbbbbbbbbkbbbcbbbbbbbbbebebbccbbbbbbbbbbbbbbbbbb
    blbbbbbbbbbbbbbbbebbbgbfbbbBcbBHcbBcDcBEAihmfBOzBaBVhBoFgBkFzlbpbhbcCRbB
    zEMfBgBGJwBgBULmBi"

/-- The property `Changes_When_Uppercased`. -/
def changesWhenUppercased : BinaryProperty where
  names := ["cwu", "changeswhenuppercased"]
  runs := table
    "DtBaCgbBpybibbbbbbbbbbbbbbbbbbbbbbbbbbbbbbbbbbbbbbbbbbbbbbbbbbbbbbbbcbbb
    bbbbbbbbbbbcbbbbbbbbbbbbbbbbbbbbbbbbbbbbbbbbbbbbbbbbbbbbbbcbbbbdcbbbcbdb
    fbcbdcdbcbbbbbcbebcbdbbbcbdbbbfcbcbcbbbbbbbbbbbbbbbcbbbbbbbbbbbbbbbbbcbc
    bbdbbbbbbbbbbbbbbbbbbbbbbbbbbbbbbbbbbbbbbbdbbbbbbbbbbbbbbbbbibccbbebbbbb
    bbbgbcbbbcdcbbbcbfcbbccbhbcbbcdgfbkcGkbBrbbbdbddsbBbBjbcddbbbbbbbbbbbbbb
    bbbbbbbbbfbbcbcbCaBwbbbbbbbbbbbbbbbbbbbbbbbbbbbbbbbbbbjbbbbbbbbbbbbbbbbb
    bbbbbbbbbbbbbbbbbbbbbbbbbbbbbbbbbbbbcbbbbbbbbbbbbcbbbbbbbbbbbbbbbbbbbbbb
    bbbbbbbbbbbbbbbbbbbbbbbbbbbbbbbbbbbbbbbbbbbbbbbbbbbbbbbbbbbbbbbbbbbbbbbb
    bbBxBnEHcBrcdBDggDFujJgbdbqbEkbbbbbbbbbbbbbbbbbbbbbbbbbbbbbbbbbbbbbbbbbb
    bbbbbbbbbbbbbbbbbbbbbbbbbbbbbbbbbbbbbbbbbbbbbbbbbbbbbbbbbbbbbbbbbbbbbbbb
    bbbbbbbbbbbbbbbbbbbbbbbbbbbbbbbbbbhfbbbbbbbbbbbbbbbbbbbbbbbbbbbbbbbbbbbb
    bbbbbbbbbbbbbbbbbbbbbbbbbbbbbbbbbbbbbbbbbbbbbbbbbbbbbbbbbbjigkiiiigkiiii
    ocCbbcebbbddbcebdecciikdbcebMzbBhqebBGlBaCTqBwbbdcbbbbbbgbcbkbbbbbbbbbbb
    bbbbbbbbbbbbbbbbbbbbbbbbbbbbbbbbbbbbbbbbbbbbbbbbbbbbbbbbbbbbbbbbbbbbbbbb
    bbbbbbbbbbbbbbbbibbbebmBmbbfbBTWdbbbbbbbbbbbbbbbbbbbbbbbbbbbbbbbbbbbbbbb
    bbbbbbtbbbbbbbbbbbbbbbbbbbbbbbbbbbFfbbbbbbbbbbbbbdbbbbbbbbbbbbbbbbbbbbbb
    bbbbbbbbbbbbbbbbbbbbbbbbbbbbbbbbbbbbbbbkbbbcbbbbbbbbbebebbccbbbbbbbbbbbb
    bbbbbbblbbbbbbbbbbbbbbbebbbgbfbbbBcbBHcbBcDcBEAihmfBOzBaBVhBoFgBkFzlbpbh
    bcCRbBzEMfBgBGJwBgBULmBi"

/-- The property `Dash`. -/
def dash : BinaryProperty where
  names := ["dash"]
  runs := table
    "BtbCAubBzbFKjbBNpbDBdgCjbBnbpbPabEOibcbBfcebBcbRebtbEhbCZWacBlbkbGnbFXvb"

/-- The property `Default_Ignorable_Code_Point`. -/
def defaultIgnorableCodePoint : BinaryProperty where
  names := ["di", "defaultignorablecodepoint"]
  runs := table
    "GrbZxbBBobEGwcCKhcDhfDApfBafBxqGKybCZMpqJfbGebDbjCTLneHWxiBTKZlGBo"

/-- The property `Deprecated`. -/
def deprecated : BinaryProperty where
  names := ["dep", "deprecated"]
  runs := table
    "MrbBYvbDKtbbbDCjcDIjgBAvcBZRYkb"

/-- The property `Diacritic`. -/
def diacritic : BinaryProperty where
  names := ["dia", "diacritic"]
  runs := table
    "DqbbbCtbgbebccTjGdbifgrcebjcJtfIbbCdrbBbbbbcbbFeiecFececddCpBbDnlCglBicE
    wiBpkqBcCjbqbdeBcbCwbqbEgbqbEgbqbBvdCibqbhbEpbEgbqbEgbqbEfcqbEubEugbbEdb
    nfCxcBbbbbbbecCodbcCkbEibbcBocefzhbbkcBBddBKmcGxljbNjdMbicbBwpclEabpbBmj
    CccFicCmgDezebgbcdByClDlmBllRdbbdldndndncEXkdMfbTmgEbeDrbBSMkbmcbbBccDec
    oBiDydEfcHubBbsCfeBkbDrbmbBkbFtdCneBzbDwfjdEycBDZsbBDpqKkbbbBvbBtcCpbBDk
    bBTngbBqbjBFecVzgSbdCslBxeHkbBpbCucEqcCkbCybjdEacGwcDdbqbyhdfHxbdbEtcJrc
    EwbEocElbKjcJycebGabDfbsbDdbQfbJybbcDdbIPjpURqfChhBQurDccYGcebhbcLThBucx
    UyddgiichBeeFMwCkHmhOlbCjeCFwhEfdbd"

/-- The property `Emoji`. -/
def emoji : BinaryProperty where
  names := ["emoji"]
  runs := table
    "BjbgbfkEhbebLYrbmbIibwbDmgpcOdcmbGkbzledHrbIxckbjbCgebfjbcbcccbebcbbccbd
    bdcidfbbbfmlccbbcbbsbccsgbbbcdcfbcceclcfccbfcbbbcucfgbecbebcbcgbbcbbbbbg
    bdbgbkcpbcbebbbedbblcBwdjbobobOicRvdtcBzbebBVubmbXdbbbGMRqbHubGecmcobckC
    xBabcxbubcjvcGsBicEiccbdcDfcdbKdbCllgbyhccimbcecbecnccbicjbfdmdidcbbbebg
    bdbgDiBwCsficdekdbbcdbckItmebKxBvbkbHdEindjhBubhioejhj"

/-- The property `Emoji_Component`. -/
def emojiComponent : BinaryProperty where
  names := ["ecomp", "emojicomponent"]
  runs := table
    "BjbgbfkMBjbIfbDFTrbDOIwBaTnfCEaeBSVUqDs"

/-- The property `Emoji_Modifier`. -/
def emojiModifier : BinaryProperty where
  names := ["emod", "emojimodifier"]
  runs := table
    "HHIxf"

/-- The property `Emoji_Modifier_Base`. -/
def emojiModifierBase : BinaryProperty where
  names := ["ebase", "emojimodifierbase"]
  runs := table
    "OLhbIlbqeGSJvbCidcbcdEncclvtdbedbdhbbbybHtcebvbecGsddfDfbqdjblbWdbcbiigb
    jkcdCebCjcbcbbrdbnIvdBqj"

/-- The property `Emoji_Presentation`. -/
def emojiPresentation : BinaryProperty where
  names := ["epres", "emojipresentation"]
  runs := table
    "NHqcHxedbcbUbcvcBymBrbtbnbicrcfcibfbvbhcbbebcbhbecBcbBjbbbedbbCjdybobBHb
    cBzbebGPLebHubHibckCxBabbybubcfbdvcGsBhmjbCsbwmBrefmrdbdCtbbbHfcClnebysb
    BacnbDiDhBwCsgbddcdeelchjItmebKxBvbkbHdEindjhBubhioejhj"

/-- The property `Extended_Pictographic`. -/
def extendedPictographic : BinaryProperty where
  names := ["extpict", "extendedpictographic"]
  runs := table
    "GnbebLYrbmbIibwbDmgpcOdcmbDrbCsbzledHrbIxckbjbCgebgbmbEkkEoclbbbbgbdbgbk
    cpbcbebbbedbblfBtdjbobobOicRvdtcBzbebBVubmbXdbbbGMRmJwndBfbCigmcobcksCfB
    bpkbubcjbejQsfMgiKgBwEyEmmDhBrmeCeikgBoiBeDemBvbkbQzJwBNi"

/-- The property `Extender`. -/
def extender : BinaryProperty where
  names := ["ext", "extender"]
  runs := table
    "HbbUqcBHubQzbBHabBCybExbDNfbCebXnbPibCqbHKjbBrfDzcDpdBQBubCGsbBLabwbFhbE
    ebvcBFZvbDBkcEMsbXsdBVjbBEOfcBTkcbbBQYacDBad"

/-- The property `Grapheme_Base`. -/
def graphemeBase : BinaryProperty where
  names := ["grbase", "graphemebase"]
  runs := table
    "BgDrBhnbWwEiicgehbbbubIqhGkbBmcBycdBubbbcbcbjBbegrklbbBuvqbDxibgccbeBgcb
    bBeBdDllboBrjhdyebjbdbhpbzfbblfBfrBqCfCdbbbeiebdhkcBdbcbicccwbhbbdedbbcg
    cccbbncbdeyfbbgeccwbhbcbcbcedyebbhkcdbbmbbjbdbwbhbcbfdeibbcdbpcemhbicbic
    ccwbhbcbfdbcbgcccpcbdeslbbgddbedcbbbcdcdddmfbbcddbddbvvgdbibdbxbqdbdetdc
    bccekhkblbdbxbkbfdcbcbcccbcrcbcekbdolbdbBpcbbcfdbdbcedbkeBaccbsdybjbbchj
    cghhkcdmBwbcliinBlcbbbfbybbbkbcjbcfbbjkceBgycBbbbbbbobBksbfbcfBxibgbnBlB
    tebgbccczcedqenbccgbpbBobbfbcOnbechbbbecBpbecBhbechbbbecpbCfbecCpfBddBag
    DicgcZtdDlhsdbjtcdjsonbdpCacbhibcljdkgkglfkgDlhfcBibbfCskBfeecdecbghbdBq
    cflBseBagldCfccdCebbjbbcignkgkgoDiBwhbbfbkdBbjldBgeccbdCebbcdbbdciBwicfp
    dCihBrcllbnbhebgbdcbfHkCmKscgcBmcgcibbbbbbbBfcCbbpbocgbtcdbjblfyhBxqccBb
    bndBhClFkeZnzlvCRscBgbNgdcfBtbbfbcCehcpxjhbhbhbhbhbhbhbhBhDqBiBabDlmIgBa
    meBqgqbDieDxfBrbDqbDgmBvbBRIrdCdjNkuBvebkBgcDccgiHvfcbbbfyqbdbebzcfekgCe
    iCqkmynbBmizlclBegBwbceccqblehbzbBpgcccldbibbckcBgbBzbbdccfcbbbyrcilgcgc
    gjhbhbCieEnbcbedkgQNsmxeBxMNcOccEcBmhmffbbybfbbbcbcbEvqRdcCchbBgqqkwBjbt
    beefbFfeGbcBfdgcgcgcddhbhnccmbBabtbcbpcoBiEtfdeBtdDkbndbBvBtFbBddBxqBbeB
    kjBefBmkBebBleoBqGcckgBkeBkeBoiCalmbpbhbcblbpbhbcCpLzjwkiygbBqbjCrgcbbBs
    bcdbcxbCuijBwtbcfBhdBbfbCmCeeucBvpebdbBdkjhjhCmBgBlgmjCcdBdcBbfBahemhDcC
    vCdBznBzhBqmkLiBfbBqdbccDaBoiwljwseeBmBcuxjbbCcpheBebccbmBxecccbeozhkjBk
    fbjsiBjbdlCajkecbqbulsbBcdcbbcgbcClhbbbebpblgBvbdnkicbicccwbhbcbfdbbbbec
    ccdcbmhGaCeicdbbvbbbdBeBwbcgbbcbbcbceikGkBvbcgecbcBbBkBzicbbcelkgntBrbbb
    cgbbcgkCcBbfcebjxHdBvjbcbDwDfmicbcibcbybfbcebbebdjkCsicBqiebeBbbkBogceij
    bgcdBunbcjnCvhkJmjbBmobbgkBddBgzbhbcbCxhbcbBmvbjkggbcbBlecbbbbhkLytcejpb
    BkicbbbxDibpBynBJnDyEhbflHoDXkDvnBPgrgFYvWlMUbVxhBfbkeDdbkgBehbkBwhpkkbh
    bvftBAmDnDxCxfCelnCmemcoJCaiBVqBqjNFrebhbcbLfpbBddcboeiPgDKuEdfndjhkcbcb
    HCaEmCiJmkBncCibbdevchBeeCjvCodbEsumumDjjzFfDhbCtbccbcccebmbbbhbCnbecibh
    bBcbebfbbdhbNccLgcVqCdeByibobhBRwBfggKbCkFqBtkhckecMiBesBsekfbRwBcekBCoh
    bebcbpbHpcjBwCqhbekecBEfCqCyCjHmebBbbcbbcbbkbebbbbgbebbbbbbdbcbbcbbbbbbb
    bbbcbbcebhbebebbbkbrfdbfbrCacKkBseDwmpcpbpbBlkGsCeBdnBsejhcogFyBLwerdndE
    peDrgmebpmeCeikgBoiBeccDaNcmocndjhBubhioejhjhFrbCdBlkBNqCLFcBgGDugIocINq
    oLBlEPjUwCFyHHzfGFg"

/-- The property `Grapheme_Extend`. -/
def graphemeExtend : BinaryProperty where
  names := ["grext", "graphemeextend"]
  runs := table
    "BDoEiKphKdBtbbbcbcbbCulBwvqbDxhcgccbeBjbBeBbDnlCgjjbyebjbdbfBrdCiiBqybBg
    CdbbbeiebdhkcBdbCgbbbceibjbkcBabccCfbececcddbBecdblcCfbefbcebucwgbbCgbbc
    beibhdkcBebChbbbmbjbBobdbCdbbdfdbehclcBdbCgbcbcbdbfchclcBccCfcbbceibjbkc
    BdbCubebcdbbibDdbchmiDubcjlhCvcBbbbbbbCdobfbcflbBkjbDyebgbccczcedqenbccg
    bpbBBbdBKkdBdcBecBecCmcbhibcljbBtdbbEncBibEodecjbgdIlccbCgbbhbbbbcigkcbB
    wBfBxeBwhbbfbBojmcBgeccbdCebbcdbbdCgiccFwdbnbhebgbdcHqCmUebHnBhEOcdFlbDs
    BgVigEbcBSQeebkBgcDccKmbdbebzcfbFvcBasnbBmizlBudBwbceccBnbCpgccccmbibBvb
    BzbbdccfcbbBqcibJebcbebBDZsbBCjqqqOccXhbIsbFtfCMgdbcfeBodebGjcWbeOxcDcdC
    slBxeEtbCcpBpbcckdBxecchbCjdBkfbiCkbmcCajkecbDrdcbbcgbcbGbbdivcCfcbbbbwb
    ohdfHnicdbbxbDdbcgbbcbbcbcJbbcegcbcBbcDhicbbcEcbbbcgbbDxdcebfJzjbcJlbkcb
    bebFoeccebBgkBogceibjgcdBunbcPqhbgbbDewchbcbcEsgdbbcbhbbCucdbbbNjclcCaff
    bbbHYrbgpURqfChhBOibCleDdbBDBkcGYzBucxUwbbdefiichBeeFsdCYdCdeByibobwfbpC
    AihbrchbcbfDwbGehOlbCjeToeBMehEfhBTCAfDsEyJg"

/-- The property `Hex_Digit`. -/
def hexDigit : BinaryProperty where
  names := ["hex", "hexdigit"]
  runs := table
    "BwkhgBagDSLlkhgBag"

/-- The property `IDS_Binary_Operator`. -/
def idsBinaryOperator : BinaryProperty where
  names := ["idsb", "idsbinaryoperator"]
  runs := table
    "SEacci"

/-- The property `IDS_Trinary_Operator`. -/
def idsTrinaryOperator : BinaryProperty where
  names := ["idst", "idstrinaryoperator"]
  runs := table
    "SEcc"

/-- The property `ID_Continue`. -/
def idContinue : BinaryProperty where
  names := ["idc", "idcontinue"]
  runs := table
    "BwkhBaebbBaBvbkbbbcbfxbBfbRqemofhbbbrEnbccebbgfbbbubDfbFjbfcGkbBmcbgBpiB
    tbbbcbcbbiBbeeBdlfCweDybickbtcbqChcDxoCcebcbcBusBcelfybgjCwbEzckbtbicccw
    bhbbdecjccceibecbfcmkbbbcdbgeccwbhbcbcbccbbfeccddbhebbhqldbjbdbwbhbcbfck
    bdbdcbpeckjhbdbicccwbhbcbfcjcccdhdecbfckbbqcbgddbedcbbbcdcdddmefddbecbgb
    okqnbdbxbqcjbdbehcbdcbceckqebibdbxbkbfcjbdbehcgcbeckbdmnbdbBzbdbffehfckk
    gbdbsdybjbbchdbegbbbigkccnCgfpbkBncbbbfbybbbxcfbbbhbkceBgbxcgklbbbbbekbB
    keubsbBkjbCfCwgDacBmbbfbcBrbMvbechbbbecBpbecBhbechbbbecpbCfbecCpcdjjoqqD
    icgdXwcrbBafCxdlhwjwlumnbdbcmDgdbecckBhdblgDlhBrfCskBfbmemkBocflBseBaglB
    lBceClbBdclgknbiobqBxCzdkrjmEmmCeikdBxcjhBrcdqdbBnfUocgcBmcgcibbbbbbbBfc
    CbbhbbddbhdecgenfdbhCoctbBcbnbqnBznebdmrbebckbbcggbbbbbbqceffebrBpDZbIvg
    jmBmbbfbcCehbpyjhbhbhbhbhbhbhbhbBgTxdzpbfcfeDichbDmbefBrbDqrBgBwqTsJToCm
    BGUfCpBucKjdBcuBwekbElBljcDzcCmfcbbbfyCcebtCamCskkgydbbBxcBkmBddCnolgBfb
    CdjockgxdCvydcqcfkgcgcgjhbhbBrbogEtbcckgQNsmxeBxMNcOccEcBmhmffmbnbfbbbcb
    cbEeBhNzsCmcCcBomeqqqdcydBgfbFftkhBaebbBalDldgcgcgcdBjmbBabtbcbpcoBiEtCr
    CbFgbFaBddBxpbBfBgnBefBrfBecBkeibfBqGcckgBkeBkeBoiCamlbpbhbcblbpbhbcCpLz
    jwkiygbBqbjCrgcbbBsbcdbcxkxjBfCntbckwkBaCsCegcCmebcfibdbBdcdebBgBddBdBji
    bBezCckwktnsEgCvCdBznBznBoikMoBqbcdcCxBgkbiBhBfwBqvBbxjCtBfqjCihbnzhkgCb
    bkeeiBkcbjCreebnbbBjsbBlgeCkhbbbebpbkhChfkgebicccwbhbcbfbkcccdcbgbfhchdf
    FjCxfkeeBeCsbbikGkCccjxgBiCndblkBmCfhkCcBbcpekghHdChDxCwvicbcibcbBebccjm
    kCsicBucibcBbClibiCwdbsCvKdjbBtbjpkyBecwboCvhbcbBsdbbcbjikggbcbBlbcbghkL
    yxjrbBpdfnkDibDbBJmDyEhrHoDXkDtpBPgqwFYgWlMUbVxhBfbkgDbbkgBecflCdjemkjvf
    tBAmCmEyCxeCfhrCmcbclcoJCaiBVqBqjNFrebhbcbLfpbBddcboeiPgDKuEdfndjhkdcGYz
    BucxUwfdgiichBeeFsdRbDhbCtbccbcccebmbbbhbCnbecibhbBcbebfbbdhbNcczbzbBfbz
    bBfbzbBfbzbBfbzbicByTsCdeByibobwfbpBQmBfggIfhbrchbcbffCkBhbEiBtdockebMjB
    frCgScBqBCohbebcbpbHplhBpCyekBTuebBbbcbbcbbkbebbbbgbebbbbbbdbcbbcbbbbbbb
    bbbcbbcebhbebebbbkbrfdbfbrFAakBNqCLFcBgGDugIocINqoLBlEPjUwCFyHHzfGFgBONH
    gJg"

/-- The property `ID_Start`. -/
def idStart : BinaryProperty where
  names := ["ids", "idstart"]
  runs := table
    "CnBagBaBvbkbebfxbBfbRqemofhbbbEzfbccebbgbbdbbbubDfbFjiGkbBmcbgBpCtBbeeBt
    BrBjcbDvbbpchckdcbqbbBeBdDllbyBhjcebfwebjbdbxzhlfybgrBqCgCcdbsbhkpqeiccc
    wbhbbdedbqbncbdockbigeccwbhbcbcbcBfebbtdqjbdbwbhbcbfdbsbpcxblicccwbhbcbf
    dbBecbdpbrbbgddbedcbbbcdcdddmwbCaibdbxbqdbBadcbccBebeibdbxbkbfdbBfcbcpcr
    jbdbBpcbqbfdidygfsdybjbbchCgBwbcmhCgcbbbfbybbbkbcjbcfbbveBgbClibBkBbfElB
    rubqgeedbdchdenmbrBmbbfbcBrbMvbechbbbecBpbecBhbechbbbecpbCfbecCpBlqqDicg
    dXwcrbBafCxdlhsntosonbdpCaBjbebCpDlhBpbbfCskBfBxBecflBseBaCcxjCbDebDpBvr
    iCcBenckBsBaBkBpdkBkcjhBrcdBpebgbcdbfHkCmKscgcBmcgcibbbbbbbBfcCbbhbbddbh
    decgenfdbhEmbnbqnDxbebckbbcggbbbbbbqceffebrBpDZbIvgedcmBmbbfbcCehbqxjhbh
    bhbhbhbhbhbhVedzjhfcfeDiefbDmbefBrbDqrBgBwqTsJToCmBGUfCpBucKjdqkcuBvqBfc
    DcBnjcDzcCmfcbbbfyqbdbebxBdCaoByCkgdbbclBckxzBdhBvBcbqfbkkfbBpxdbiuxdbdB
    ybbdccfcbbbydclhdmgcgcgjhbhbBrbogElBdQNsmxeBxMNcOccEcBmhmffbbkbnbfbbbcbc
    bEeBhNzsCmcCcBomEmfbFfBkBagBalDldgcgcgcdBjmbBabtbcbpcoBiEtCrCbKhBddBxBvB
    gnBefBmkBecBkeibfBqGcsBkeBkeBoiCamlbpbhbcblbpbhbcCpLzjwkiygbBqbjCrgcbbBs
    bcdbcxkxjBfCntbckwkBaCsCegcCmbpebdbBdBqBddBdBjibBcBbCckwktnsEgCvCdBznBzn
    BkNkBqgcDaBdkbiwBqsBuvBbxmCbCfccbnBtBgzBaBkBdbcbiBjdbmBwoevbbbBjsbztcClh
    bbbebpbkhBvBmicccwbhbcbfdbsbmfGcCbseudBeBwucbbHcBvBpeBkBwubChBrnbCtBbBlh
    HdBsEmCmBficbcibcbypbbbDqicBnqbbbBcbkBohbvblButbsCvKdjbBlrbBxBeEihbcbBmv
    bzgbcbBgobMptpbbnbBiEubDbBJmDyEhrHoDXkDtpBPgrgFYvWlMUbVxhBfrDbrBesBwqeBf
    vftBAmCmEyCxfbConCmcbbBcJCaiBVqBqjNFrebhbcbLfpbBddcboeiPgDKuEdfndjhkIWkD
    hbCtbccbcccebmbbbhbCnbecibhbBcbebfbbdhbNcczbzbBfbzbBfbzbBfbzbBfbzbiCSyBf
    ggKbCkFqBtkhqbMjBesBsSqBcBDchbebcbpbHpChCqhbBUiebBbbcbbcbbkbebbbbgbebbbb
    bbdbcbbcbbbbbbbbbbcbbcebhbebebbbkbrfdbfbrGOaCLFcBgGDugIocINqoLBlEPjUwCFy
    HHzfGFg"

/-- The property `Ideographic`. -/
def ideographic : BinaryProperty where
  names := ["ideo", "ideographic"]
  runs := table
    "SEwczjodBLdJToCmBFBkBHSiOccEcBSIkbBbJCaiBVqBqjNUlPgBDEiCLFcBgGDugIocINqo
    LBlEPjUwCFyHHzfGFg"

/-- The property `Join_Control`. -/
def joinControl : BinaryProperty where
  names := ["joinc", "joincontrol"]
  runs := table
    "MDoc"

/-- The property `Logical_Order_Exception`. -/
def logicalOrderException : BinaryProperty where
  names := ["loe", "logicalorderexception"]
  runs := table
    "FKifEtfEDsdcbCCXmccbbc"

/-- The property `Lowercase`. -/
def lowercase : BinaryProperty where
  names := ["lower", "lowercase"]
  runs := table
    "DtBaBvbkbebBkybibbbbbbbbbbbbbbbbbbbbbbbbbbbbbbbbbbbbbbbbbbbbbbbbbbbbbbbc
    bbbbbbbbbbbbbbbcbbbbbbbbbbbbbbbbbbbbbbbbbbbbbbbbbbbbbbbbbbbbbbcbbbbdcbbb
    cbdcebcbddcbcbbbbbcbbcbbcbdbbbcccdgbcbcbbbbbbbbbbbbbbbbcbbbbbbbbbbbbbbbb
    bccbbbdbbbbbbbbbbbbbbbbbbbbbbbbbbbbbbbbbbbbbbbbbbbbbbbbbbbbbbbbbbhcbccbb
    ebbbbbbbbCrbBkhcBefDsbBrbbbdbcesbBbBjbcddbbbbbbbbbbbbbbbbbbbbbbbfbbcbccB
    zBwbbbbbbbbbbbbbbbbbbbbbbbbbbbbbbbbbbjbbbbbbbbbbbbbbbbbbbbbbbbbbbbbbbbbb
    bbbbbbbbbbbbbbbbbbbcbbbbbbbbbbbbcbbbbbbbbbbbbbbbbbbbbbbbbbbbbbbbbbbbbbbb
    bbbbbbbbbbbbbbbbbbbbbbbbbbbbbbbbbbbbbbbbbbbbbbbbbbbbbbbbbBwBpEHbBrbeBDgg
    DFujEpHkCnbbbbbbbbbbbbbbbbbbbbbbbbbbbbbbbbbbbbbbbbbbbbbbbbbbbbbbbbbbbbbb
    bbbbbbbbbbbbbbbbbbbbbbbbbbbbbbbbbbbbbbbbbbbbbbbbbbbbbbbbbbbbbbbbbbbbbbbb
    bbbbbbbbbbbbbbjbbbbbbbbbbbbbbbbbbbbbbbbbbbbbbbbbbbbbbbbbbbbbbbbbbbbbbbbb
    bbbbbbbbbbbbbbbbbbbbbbbbbbbbbbbbbbbbbbbbjigkiiiigkiiiiociiiiiifbcgbddbci
    ecciikdbcErbnbqnEfbdcdbBbbebebccieebBhqebBGlBaCTqBwbbdcbbbbbbebbcbidbbbb
    bbbbbbbbbbbbbbbbbbbbbbbbbbbbbbbbbbbbbbbbbbbbbbbbbbbbbbbbbbbbbbbbbbbbbbbb
    bbbbbbbbbbbbbbbbbbbbbbchbbbebmBmbbfbBTWdbbbbbbbbbbbbbbbbbbbbbbbbbbbbbbbb
    bbbbbbbbbbbbbtbbbbbbbbbbbbbbbbbbbbbbbbbbdFdbbbbbbbbbbbbdbbbbbbbbbbbbbbbb
    bbbbbbbbbbbbbbbbbbbbbbbbbbbbbbbbbbbbbbbbbbbbbkbbbbcbbbbbbbbbebbbcbbdbbbb
    bbbbbbbbbbbbbbbbfbfbbbbbbbbbbbbbbbebbbgbbbbbbbbbydbbbdBFpBrbogDcBEAihmfB
    OzBaBVhBoFgBkFzlbpbhbcRjbcdbBqbjBXlBzEMfBgBGJwBgBMMkBaBahbsBaBaBaebbbhbl
    BaBaBaBaBaBaBaBaBaBaBaBaBaBaBaBaBaBcBczbgBazbgBazbgBazbgBazbgbbCSykbuggK
    bCkDHsBi"

/-- The property `Math`. -/
def math : BinaryProperty where
  names := ["math"]
  runs := table
    "BrbqdBfbBdbbbBtbebBlbBfbBCadcbBaccdUhdJWnbBbdlbdbnboevflfCnnebdcefsbebck
    bbcggbdcccbdbgdobbCqybgbceceBgbbgcoKiieucDmbBeBbbbyblhRdcmkegecccdfobbbc
    glifcCfbbbBdejdMyCmJwTsBwvcgDASqbBFrgbbGgbqdBdbbbBdbbbFbbgeDCIdDhbCtbccb
    cccebmbbbhbCnbecibhbBcbebfbbdhbNccLgcByIIqebBbbcbbcbbkbebbbbgbebbbbbbdbc
    bbcbbbbbbbbbbcbbcebhbebebbbkbrfdbfbrCac"

/-- The property `Noncharacter_Code_Point`. -/
def noncharacterCodePoint : BinaryProperty where
  names := ["nchar", "noncharactercodepoint"]
  runs := table
    "DSDcBgUgcDSYocDSYocDSYocDSYocDSYocDSYocDSYocDSYocDSYocDSYocDSYocDSYocDSY
    ocDSYocDSYocDSYoc"

/-- The property `Pattern_Syntax`. -/
def patternSyntax : BinaryProperty where
  names := ["patsyn", "patternsyntax"]
  runs := table
    "BhpkhBaebbBaeBihbbbcbbbcebebdbxbBfbLUeyipctbkLtBBsGeYgBeBRoTsEyOvdezpbCZ
    QzcKbc"

/-- The property `Pattern_White_Space`. -/
def patternWhiteSpace : BinaryProperty where
  names := ["patws", "patternwhitespace"]
  runs := table
    "jfsbDwbLYmcyc"

/-- The property `Prepended_Concatenation_Mark`. -/
def prependedConcatenationMark : BinaryProperty where
  names := ["pcm", "prependedconcatenationmark"]
  runs := table
    "CHcgIhbBxbOucDcbDVXybpb"

/-- The property `Quotation_Mark`. -/
def quotationMark : BinaryProperty where
  names := ["qmark", "quotationmark"]
  runs := table
    "BibebFbbpbLWuizcFIdbRpendDABpeHhbebDmc"

/-- The property `Radical`. -/
def radical : BinaryProperty where
  names := ["radical"]
  runs := table
    "RPwBabDlmIg"

/-- The property `Regional_Indicator`. -/
def regionalIndicator : BinaryProperty where
  names := ["ri", "regionalindicator"]
  runs := table
    "HGOkBa"

/-- The property `Sentence_Terminal`. -/
def sentenceTerminal : BinaryProperty where
  names := ["sterm", "sentenceterminal"]
  runs := table
    "BhbmbqbCAbbFrdGybBrdJmbCjbbbdcLhcCPwcBEkbecBDtbHqcHwbfbMccNqeGscccBdcHgc
    CncBKucjdFGubnbwcQnbBSHwbKkcItbdbOscDicDrbFwcFrdFocJpbBFFibdcGnbmbqbCnbE
    DwcBXdfBseHhcEneExdEzcgbqcDkcbcEebQbcOjcfpEbcJpdTxbbbJrcDjcQecBAqcCwcBCM
    bcFdbCnclbBGtbBDOgbLImb"

/-- The property `Soft_Dotted`. -/
def softDotted : BinaryProperty where
  names := ["sd", "softdotted"]
  runs := table
    "EbcHobKvbBebCabubMibDubbbJMnbBzbnbdbFcbGbbQfbIgcEGgbGELhcBycBycBycBycByc
    BycBycBycBycBycBycBycDFybLtcBab"

/-- The property `Terminal_Punctuation`. -/
def terminalPunctuation : BinaryProperty where
  names := ["term", "terminalpunctuation"]
  runs := table
    "BhbkbbblcdbBFybibTtbCfbCubobbdGybBrlbbJbcCcpBfbKbcBWucGqbegLzcBEjiBDtbEu
    dCtcGbddbBneccMccNqeGscbdBdcHgfCkcBKucjdFGubnbebkbbcdcQmcBSHvcKjdItfOscD
    icDrbFvdFrdExbqcJpbBFFgdbeGnbkbbblcdbCnbcbBPqbBwbBSobHrbLycFwgCqgDleBKqf
    BseHhhEieExdEzcgbqcDkfEebQbdmcNuedpEbcJpdTxbbbJrcDjcecPydBtbYvcCwcBYxfBA
    MzcFdbCndkbBGscBDOgbLIle"

/-- The property `Unified_Ideograph`. -/
def unifiedIdeograph : BinaryProperty where
  names := ["uideo", "unifiedideograph"]
  runs := table
    "TSaJToCmBFBkBICscbbbckbbbbccdDVEcCLFcBgGDugIocINqoLBlHQdHHzfGFg"

/-- The property `Uppercase`. -/
def uppercase : BinaryProperty where
  names := ["upper", "uppercase"]
  runs := table
    "CnBaDxxbhBhbbbbbbbbbbbbbbbbbbbbbbbbbbbbbbbbbbbbbbbbbbbbbbbbbbbbbbbcbbbbb
    bbbbbbbbbbcbbbbbbbbbbbbbbbbbbbbbbbbbbbbbbbbbbbbbbbbbbbbbbcbbbbdcbbbcbdce
    bcbddcbcbbbbbcbbcbbcbdbbbcdbhbcbcbcbbbbbbbbbbbbbbbcbbbbbbbbbbbbbbbbbcbcb
    bdbbbbbbbbbbbbbbbbbbbbbbbbbbbbbbbbbbbbbbbbbbbbbbbbbbbbbbbbbbhcbccbbebbbb
    bbbbLdbbbdbibgbbdbbbcbrbjBjbcddbbbbbbbbbbbbbbbbbbbbbbbfbcbbccBzBwbbbbbbb
    bbbbbbbbbbbbbbbbbbbbbbbbbbjbbbbbbbbbbbbbbbbbbbbbbbbbbbbbbbbbbbbbbbbbbbbb
    bbbbbbbbbcbbbbbbbbbbbbcbbbbbbbbbbbbbbbbbbbbbbbbbbbbbbbbbbbbbbbbbbbbbbbbb
    bbbbbbbbbbbbbbbbbbbbbbbbbbbbbbbbbbbbbbbbbbbbbbcBmEHdBmbbfbBBuDiDGsBrcdMi
    bbbbbbbbbbbbbbbbbbbbbbbbbbbbbbbbbbbbbbbbbbbbbbbbbbbbbbbbbbbbbbbbbbbbbbbb
    bbbbbbbbbbbbbbbbbbbbbbbbbbbbbbbbbbbbbbbbbbbbbbbbbbbbbbbbbbbbbbbbbbbbbbbb
    bbbbbjbbbbbbbbbbbbbbbbbbbbbbbbbbbbbbbbbbbbbbbbbbbbbbbbbbbbbbbbbbbbbbbbbb
    bbbbbbbbbbbbbbbbbbbbbbbbbbbbbbbjiigkiiiiglbbbbbbbiiCuemememfleKcbebddcdc
    bdfgbbbbbbecekcfbBaqtbBFmBaCSuBwBwbbdcbbbbbbebbcbidbbbbbbbbbbbbbbbbbbbbb
    bbbbbbbbbbbbbbbbbbbbbbbbbbbbbbbbbbbbbbbbbbbbbbbbbbbbbbbbbbbbbbbbbbbbbbbb
    bbbbbibbbebBTYjbbbbbbbbbbbbbbbbbbbbbbbbbbbbbbbbbbbbbbbbbbbbbtbbbbbbbbbbb
    bbbbbbbbbbbbbbbbFfbbbbbbbbbbbbbdbbbbbbbbbbbbbbbbbbbbbbbbbbbbbbbbbbbbbbbb
    bbbbbbbbbbbbbbbbbbbbbkbbbbcbbbbbbbbebbbcbbbdbbbbbbbbbbbbbbbbbbbbfbfbbbbb
    bbbbbbbbbbebbgbfbbbBcbBHAhBaBUzBoFgBkGalbpbhbcCQcBzENlBgBGJwBgBMMqBaBaBa
    BaBaBabbccbcccebiBaBaBacbecibhBbcbebfbbdhBbBaBaBaBaBaBaBaBaBaBaBaBezBhzB
    hzBhzBhzBhbGNlBiDBiBagBagBa"

/-- The property `Variation_Selector`. -/
def variationSelector : BinaryProperty where
  names := ["vs", "variationselector"]
  runs := table
    "JCtdbbDJCaqBWNKyJg"

/-- The property `White_Space`. -/
def whiteSpace : BinaryProperty where
  names := ["wspace", "whitespace", "space"]
  runs := table
    "jfsbDwbBabIHjbDPnlBdcfbBvbFXwb"

/-- The property `XID_Continue`. -/
def xidContinue : BinaryProperty where
  names := ["xidc", "xidcontinue"]
  runs := table
    "BwkhBaebbBaBvbkbbbcbfxbBfbRqemofhbbbrEnbcddbbgfbbbubDfbFjbfcGkbBmcbgBpiB
    tbbbcbcbbiBbeeBdlfCweDybickbtcbqChcDxoCcebcbcBusBcelfybgjCwbEzckbtbicccw
    bhbbdecjccceibecbfcmkbbbcdbgeccwbhbcbcbccbbfeccddbhebbhqldbjbdbwbhbcbfck
    bdbdcbpeckjhbdbicccwbhbcbfcjcccdhdecbfckbbqcbgddbedcbbbcdcdddmefddbecbgb
    okqnbdbxbqcjbdbehcbdcbceckqebibdbxbkbfcjbdbehcgcbeckbdmnbdbBzbdbffehfckk
    gbdbsdybjbbchdbegbbbigkccnCgfpbkBncbbbfbybbbxcfbbbhbkceBgbxcgklbbbbbekbB
    keubsbBkjbCfCwgDacBmbbfbcBrbMvbechbbbecBpbecBhbechbbbecpbCfbecCpcdjjoqqD
    icgdXwcrbBafCxdlhwjwlumnbdbcmDgdbecckBhdblgDlhBrfCskBfbmemkBocflBseBaglB
    lBceClbBdclgknbiobqBxCzdkrjmEmmCeikdBxcjhBrcdqdbBnfUocgcBmcgcibbbbbbbBfc
    CbbhbbddbhdecgenfdbhCoctbBcbnbqnBznebdmrbebckbbcggbbbbbbqceffebrBpDZbIvg
    jmBmbbfbcCehbpyjhbhbhbhbhbhbhbhbBgTxdzpbfcfeDicccdbDmbefBrbDqrBgBwqTsJTo
    CmBGUfCpBucKjdBcuBwekbElBljcDzcCmfcbbbfyCcebtCamCskkgydbbBxcBkmBddCnolgB
    fbCdjockgxdCvydcqcfkgcgcgjhbhbBrbogEtbcckgQNsmxeBxMNcOccEcBmhmffmbnbfbbb
    cbcbEeBhFjgIksCmcCcBokgqqqdcydBhbbbdbbbbbbbbEwtkhBaebbBalDldgcgcgcdBjmbB
    abtbcbpcoBiEtCrCbFgbFaBddBxpbBfBgnBefBrfBecBkeibfBqGcckgBkeBkeBoiCamlbpb
    hbcblbpbhbcCpLzjwkiygbBqbjCrgcbbBsbcdbcxkxjBfCntbckwkBaCsCegcCmebcfibdbB
    dcdebBgBddBdBjibBezCckwktnsEgCvCdBznBznBoikMoBqbcdcCxBgkbiBhBfwBqvBbxjCt
    BfqjCihbnzhkgCbbkeeiBkcbjCreebnbbBjsbBlgeCkhbbbebpbkhChfkgebicccwbhbcbfb
    kcccdcbgbfhchdfFjCxfkeeBeCsbbikGkCccjxgBiCndblkBmCfhkCcBbcpekghHdChDxCwv
    icbcibcbBebccjmkCsicBucibcBbClibiCwdbsCvKdjbBtbjpkyBecwboCvhbcbBsdbbcbji
    kggbcbBlbcbghkLyxjrbBpdfnkDibDbBJmDyEhrHoDXkDtpBPgqwFYgWlMUbVxhBfbkgDbbk
    gBecflCdjemkjvftBAmCmEyCxeCfhrCmcbclcoJCaiBVqBqjNFrebhbcbLfpbBddcboeiPgD
    KuEdfndjhkdcGYzBucxUwfdgiichBeeFsdRbDhbCtbccbcccebmbbbhbCnbecibhbBcbebfb
    bdhbNcczbzbBfbzbBfbzbBfbzbBfbzbicByTsCdeByibobwfbpBQmBfggIfhbrchbcbffCkB
    hbEiBtdockebMjBfrCgScBqBCohbebcbpbHplhBpCyekBTuebBbbcbbcbbkbebbbbgbebbbb
    bbdbcbbcbbbbbbbbbbcbbcebhbebebbbkbrfdbfbrFAakBNqCLFcBgGDugIocINqoLBlEPjU
    wCFyHHzfGFgBONHgJg"

/-- The property `XID_Start`. -/
def xidStart : BinaryProperty where
  names := ["xids", "xidstart"]
  runs := table
    "CnBagBaBvbkbebfxbBfbRqemofhbbbEzfbcddbbgbbdbbbubDfbFjiGkbBmcbgBpCtBbeeBt
    BrBjcbDvbbpchckdcbqbbBeBdDllbyBhjcebfwebjbdbxzhlfybgrBqCgCcdbsbhkpqeiccc
    wbhbbdedbqbncbdockbigeccwbhbcbcbcBfebbtdqjbdbwbhbcbfdbsbpcxblicccwbhbcbf
    dbBecbdpbrbbgddbedcbbbcdcdddmwbCaibdbxbqdbBadcbccBebeibdbxbkbfdbBfcbcpcr
    jbdbBpcbqbfdidygfsdybjbbchCgBwbbnhCgcbbbfbybbbkbbkbcfbbveBgbClibBkBbfElB
    rubqgeedbdchdenmbrBmbbfbcBrbMvbechbbbecBpbecBhbechbbbecpbCfbecCpBlqqDicg
    dXwcrbBafCxdlhsntosonbdpCaBjbebCpDlhBpbbfCskBfBxBecflBseBaCcxjCbDebDpBvr
    iCcBenckBsBaBkBpdkBkcjhBrcdBpebgbcdbfHkCmKscgcBmcgcibbbbbbbBfcCbbhbbddbh
    decgenfdbhEmbnbqnDxbebckbbcggbbbbbbqceffebrBpDZbIvgedcmBmbbfbcCehbqxjhbh
    bhbhbhbhbhbhVedzjhfcfeDigdbDmbefBrbDqrBgBwqTsJToCmBGUfCpBucKjdqkcuBvqBfc
    DcBnjcDzcCmfcbbbfyqbdbebxBdCaoByCkgdbbclBckxzBdhBvBcbqfbkkfbBpxdbiuxdbdB
    ybbdccfcbbbydclhdmgcgcgjhbhbBrbogElBdQNsmxeBxMNcOccEcBmhmffbbkbnbfbbbcbc
    bEeBhFjgIksCmcCcBokEpbbbdbbbbbbbbEwBkBagBalCecBfdgcgcgcdBjmbBabtbcbpcoBi
    EtCrCbKhBddBxBvBgnBefBmkBecBkeibfBqGcsBkeBkeBoiCamlbpbhbcblbpbhbcCpLzjwk
    iygbBqbjCrgcbbBsbcdbcxkxjBfCntbckwkBaCsCegcCmbpebdbBdBqBddBdBjibBcBbCckw
    ktnsEgCvCdBznBznBkNkBqgcDaBdkbiwBqsBuvBbxmCbCfccbnBtBgzBaBkBdbcbiBjdbmBw
    oevbbbBjsbztcClhbbbebpbkhBvBmicccwbhbcbfdbsbmfGcCbseudBeBwucbbHcBvBpeBkB
    wubChBrnbCtBbBlhHdBsEmCmBficbcibcbypbbbDqicBnqbbbBcbkBohbvblButbsCvKdjbB
    lrbBxBeEihbcbBmvbzgbcbBgobMptpbbnbBiEubDbBJmDyEhrHoDXkDtpBPgrgFYvWlMUbVx
    hBfrDbrBesBwqeBfvftBAmCmEyCxfbConCmcbbBcJCaiBVqBqjNFrebhbcbLfpbBddcboeiP
    gDKuEdfndjhkIWkDhbCtbccbcccebmbbbhbCnbecibhbBcbebfbbdhbNcczbzbBfbzbBfbzb
    BfbzbBfbzbiCSyBfggKbCkFqBtkhqbMjBesBsSqBcBDchbebcbpbHpChCqhbBUiebBbbcbbc
    bbkbebbbbgbebbbbbbdbcbbcbbbbbbbbbbcbbcebhbebebbbkbrfdbfbrGOaCLFcBgGDugIo
    cINqoLBlEPjUwCFyHHzfGFg"

/-- The properties that can be named. -/
def all : List BinaryProperty :=
  [asciiHexDigit, alphabetic, bidiControl, bidiMirrored, caseIgnorable,
   cased, changesWhenCasefolded, changesWhenCasemapped,
   changesWhenLowercased, changesWhenTitlecased, changesWhenUppercased,
   dash, defaultIgnorableCodePoint, deprecated, diacritic, emoji,
   emojiComponent, emojiModifier, emojiModifierBase, emojiPresentation,
   extendedPictographic, extender, graphemeBase, graphemeExtend, hexDigit,
   idsBinaryOperator, idsTrinaryOperator, idContinue, idStart, ideographic,
   joinControl, logicalOrderException, lowercase, math,
   noncharacterCodePoint, patternSyntax, patternWhiteSpace,
   prependedConcatenationMark, quotationMark, radical, regionalIndicator,
   sentenceTerminal, softDotted, terminalPunctuation, unifiedIdeograph,
   uppercase, variationSelector, whiteSpace, xidContinue, xidStart]

/-- Does a character have the property? -/
def holds (p : BinaryProperty) (c : Char) : Bool :=
  inRuns false p.runs c.toNat

end BinaryProperty

end HeaderCheck.Unicode
