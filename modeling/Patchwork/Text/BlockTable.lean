/-!
The blocks of code points.
-/

namespace Patchwork.Text

/-- Each block with its names in normal form, its first and its last code point. -/
def blocks : List (List String × Nat × Nat) := [
  (["BASICLATIN", "ASCII"], 0x0, 0x7f),
  (["LATIN1SUPPLEMENT", "LATIN1SUP", "LATIN1"], 0x80, 0xff),
  (["LATINEXTENDEDA", "LATINEXTA"], 0x100, 0x17f),
  (["LATINEXTENDEDB", "LATINEXTB"], 0x180, 0x24f),
  (["IPAEXTENSIONS", "IPAEXT"], 0x250, 0x2af),
  (["SPACINGMODIFIERLETTERS", "MODIFIERLETTERS"], 0x2b0, 0x2ff),
  (["COMBININGDIACRITICALMARKS", "DIACRITICALS"], 0x300, 0x36f),
  (["GREEKANDCOPTIC", "GREEK"], 0x370, 0x3ff),
  (["CYRILLIC"], 0x400, 0x4ff),
  (["CYRILLICSUPPLEMENT", "CYRILLICSUP", "CYRILLICSUPPLEMENTARY"], 0x500, 0x52f),
  (["ARMENIAN"], 0x530, 0x58f),
  (["HEBREW"], 0x590, 0x5ff),
  (["ARABIC"], 0x600, 0x6ff),
  (["SYRIAC"], 0x700, 0x74f),
  (["ARABICSUPPLEMENT", "ARABICSUP"], 0x750, 0x77f),
  (["THAANA"], 0x780, 0x7bf),
  (["NKO"], 0x7c0, 0x7ff),
  (["SAMARITAN"], 0x800, 0x83f),
  (["MANDAIC"], 0x840, 0x85f),
  (["SYRIACSUPPLEMENT", "SYRIACSUP"], 0x860, 0x86f),
  (["ARABICEXTENDEDB", "ARABICEXTB"], 0x870, 0x89f),
  (["ARABICEXTENDEDA", "ARABICEXTA"], 0x8a0, 0x8ff),
  (["DEVANAGARI"], 0x900, 0x97f),
  (["BENGALI"], 0x980, 0x9ff),
  (["GURMUKHI"], 0xa00, 0xa7f),
  (["GUJARATI"], 0xa80, 0xaff),
  (["ORIYA"], 0xb00, 0xb7f),
  (["TAMIL"], 0xb80, 0xbff),
  (["TELUGU"], 0xc00, 0xc7f),
  (["KANNADA"], 0xc80, 0xcff),
  (["MALAYALAM"], 0xd00, 0xd7f),
  (["SINHALA"], 0xd80, 0xdff),
  (["THAI"], 0xe00, 0xe7f),
  (["LAO"], 0xe80, 0xeff),
  (["TIBETAN"], 0xf00, 0xfff),
  (["MYANMAR"], 0x1000, 0x109f),
  (["GEORGIAN"], 0x10a0, 0x10ff),
  (["HANGULJAMO", "JAMO"], 0x1100, 0x11ff),
  (["ETHIOPIC"], 0x1200, 0x137f),
  (["ETHIOPICSUPPLEMENT", "ETHIOPICSUP"], 0x1380, 0x139f),
  (["CHEROKEE"], 0x13a0, 0x13ff),
  (["UNIFIEDCANADIANABORIGINALSYLLABICS", "UCAS", "CANADIANSYLLABICS"], 0x1400, 0x167f),
  (["OGHAM"], 0x1680, 0x169f),
  (["RUNIC"], 0x16a0, 0x16ff),
  (["TAGALOG"], 0x1700, 0x171f),
  (["HANUNOO"], 0x1720, 0x173f),
  (["BUHID"], 0x1740, 0x175f),
  (["TAGBANWA"], 0x1760, 0x177f),
  (["KHMER"], 0x1780, 0x17ff),
  (["MONGOLIAN"], 0x1800, 0x18af),
  (["UNIFIEDCANADIANABORIGINALSYLLABICSEXTENDED", "UCASEXT"], 0x18b0, 0x18ff),
  (["LIMBU"], 0x1900, 0x194f),
  (["TAILE"], 0x1950, 0x197f),
  (["NEWTAILUE"], 0x1980, 0x19df),
  (["KHMERSYMBOLS"], 0x19e0, 0x19ff),
  (["BUGINESE"], 0x1a00, 0x1a1f),
  (["TAITHAM"], 0x1a20, 0x1aaf),
  (["COMBININGDIACRITICALMARKSEXTENDED", "DIACRITICALSEXT"], 0x1ab0, 0x1aff),
  (["BALINESE"], 0x1b00, 0x1b7f),
  (["SUNDANESE"], 0x1b80, 0x1bbf),
  (["BATAK"], 0x1bc0, 0x1bff),
  (["LEPCHA"], 0x1c00, 0x1c4f),
  (["OLCHIKI"], 0x1c50, 0x1c7f),
  (["CYRILLICEXTENDEDC", "CYRILLICEXTC"], 0x1c80, 0x1c8f),
  (["GEORGIANEXTENDED", "GEORGIANEXT"], 0x1c90, 0x1cbf),
  (["SUNDANESESUPPLEMENT", "SUNDANESESUP"], 0x1cc0, 0x1ccf),
  (["VEDICEXTENSIONS", "VEDICEXT"], 0x1cd0, 0x1cff),
  (["PHONETICEXTENSIONS", "PHONETICEXT"], 0x1d00, 0x1d7f),
  (["PHONETICEXTENSIONSSUPPLEMENT", "PHONETICEXTSUP"], 0x1d80, 0x1dbf),
  (["COMBININGDIACRITICALMARKSSUPPLEMENT", "DIACRITICALSSUP"], 0x1dc0, 0x1dff),
  (["LATINEXTENDEDADDITIONAL", "LATINEXTADDITIONAL"], 0x1e00, 0x1eff),
  (["GREEKEXTENDED", "GREEKEXT"], 0x1f00, 0x1fff),
  (["GENERALPUNCTUATION", "PUNCTUATION"], 0x2000, 0x206f),
  (["SUPERSCRIPTSANDSUBSCRIPTS", "SUPERANDSUB"], 0x2070, 0x209f),
  (["CURRENCYSYMBOLS"], 0x20a0, 0x20cf),
  (["COMBININGDIACRITICALMARKSFORSYMBOLS", "DIACRITICALSFORSYMBOLS", "COMBININGMARKSFORSYMBOLS"], 0x20d0, 0x20ff),
  (["LETTERLIKESYMBOLS"], 0x2100, 0x214f),
  (["NUMBERFORMS"], 0x2150, 0x218f),
  (["ARROWS"], 0x2190, 0x21ff),
  (["MATHEMATICALOPERATORS", "MATHOPERATORS"], 0x2200, 0x22ff),
  (["MISCELLANEOUSTECHNICAL", "MISCTECHNICAL"], 0x2300, 0x23ff),
  (["CONTROLPICTURES"], 0x2400, 0x243f),
  (["OPTICALCHARACTERRECOGNITION", "OCR"], 0x2440, 0x245f),
  (["ENCLOSEDALPHANUMERICS", "ENCLOSEDALPHANUM"], 0x2460, 0x24ff),
  (["BOXDRAWING"], 0x2500, 0x257f),
  (["BLOCKELEMENTS"], 0x2580, 0x259f),
  (["GEOMETRICSHAPES"], 0x25a0, 0x25ff),
  (["MISCELLANEOUSSYMBOLS", "MISCSYMBOLS"], 0x2600, 0x26ff),
  (["DINGBATS"], 0x2700, 0x27bf),
  (["MISCELLANEOUSMATHEMATICALSYMBOLSA", "MISCMATHSYMBOLSA"], 0x27c0, 0x27ef),
  (["SUPPLEMENTALARROWSA", "SUPARROWSA"], 0x27f0, 0x27ff),
  (["BRAILLEPATTERNS", "BRAILLE"], 0x2800, 0x28ff),
  (["SUPPLEMENTALARROWSB", "SUPARROWSB"], 0x2900, 0x297f),
  (["MISCELLANEOUSMATHEMATICALSYMBOLSB", "MISCMATHSYMBOLSB"], 0x2980, 0x29ff),
  (["SUPPLEMENTALMATHEMATICALOPERATORS", "SUPMATHOPERATORS"], 0x2a00, 0x2aff),
  (["MISCELLANEOUSSYMBOLSANDARROWS", "MISCARROWS"], 0x2b00, 0x2bff),
  (["GLAGOLITIC"], 0x2c00, 0x2c5f),
  (["LATINEXTENDEDC", "LATINEXTC"], 0x2c60, 0x2c7f),
  (["COPTIC"], 0x2c80, 0x2cff),
  (["GEORGIANSUPPLEMENT", "GEORGIANSUP"], 0x2d00, 0x2d2f),
  (["TIFINAGH"], 0x2d30, 0x2d7f),
  (["ETHIOPICEXTENDED", "ETHIOPICEXT"], 0x2d80, 0x2ddf),
  (["CYRILLICEXTENDEDA", "CYRILLICEXTA"], 0x2de0, 0x2dff),
  (["SUPPLEMENTALPUNCTUATION", "SUPPUNCTUATION"], 0x2e00, 0x2e7f),
  (["CJKRADICALSSUPPLEMENT", "CJKRADICALSSUP"], 0x2e80, 0x2eff),
  (["KANGXIRADICALS", "KANGXI"], 0x2f00, 0x2fdf),
  (["IDEOGRAPHICDESCRIPTIONCHARACTERS", "IDC"], 0x2ff0, 0x2fff),
  (["CJKSYMBOLSANDPUNCTUATION", "CJKSYMBOLS"], 0x3000, 0x303f),
  (["HIRAGANA"], 0x3040, 0x309f),
  (["KATAKANA"], 0x30a0, 0x30ff),
  (["BOPOMOFO"], 0x3100, 0x312f),
  (["HANGULCOMPATIBILITYJAMO", "COMPATJAMO"], 0x3130, 0x318f),
  (["KANBUN"], 0x3190, 0x319f),
  (["BOPOMOFOEXTENDED", "BOPOMOFOEXT"], 0x31a0, 0x31bf),
  (["CJKSTROKES"], 0x31c0, 0x31ef),
  (["KATAKANAPHONETICEXTENSIONS", "KATAKANAEXT"], 0x31f0, 0x31ff),
  (["ENCLOSEDCJKLETTERSANDMONTHS", "ENCLOSEDCJK"], 0x3200, 0x32ff),
  (["CJKCOMPATIBILITY", "CJKCOMPAT"], 0x3300, 0x33ff),
  (["CJKUNIFIEDIDEOGRAPHSEXTENSIONA", "CJKEXTA"], 0x3400, 0x4dbf),
  (["YIJINGHEXAGRAMSYMBOLS", "YIJING"], 0x4dc0, 0x4dff),
  (["CJKUNIFIEDIDEOGRAPHS", "CJK"], 0x4e00, 0x9fff),
  (["YISYLLABLES"], 0xa000, 0xa48f),
  (["YIRADICALS"], 0xa490, 0xa4cf),
  (["LISU"], 0xa4d0, 0xa4ff),
  (["VAI"], 0xa500, 0xa63f),
  (["CYRILLICEXTENDEDB", "CYRILLICEXTB"], 0xa640, 0xa69f),
  (["BAMUM"], 0xa6a0, 0xa6ff),
  (["MODIFIERTONELETTERS"], 0xa700, 0xa71f),
  (["LATINEXTENDEDD", "LATINEXTD"], 0xa720, 0xa7ff),
  (["SYLOTINAGRI"], 0xa800, 0xa82f),
  (["COMMONINDICNUMBERFORMS", "INDICNUMBERFORMS"], 0xa830, 0xa83f),
  (["PHAGSPA"], 0xa840, 0xa87f),
  (["SAURASHTRA"], 0xa880, 0xa8df),
  (["DEVANAGARIEXTENDED", "DEVANAGARIEXT"], 0xa8e0, 0xa8ff),
  (["KAYAHLI"], 0xa900, 0xa92f),
  (["REJANG"], 0xa930, 0xa95f),
  (["HANGULJAMOEXTENDEDA", "JAMOEXTA"], 0xa960, 0xa97f),
  (["JAVANESE"], 0xa980, 0xa9df),
  (["MYANMAREXTENDEDB", "MYANMAREXTB"], 0xa9e0, 0xa9ff),
  (["CHAM"], 0xaa00, 0xaa5f),
  (["MYANMAREXTENDEDA", "MYANMAREXTA"], 0xaa60, 0xaa7f),
  (["TAIVIET"], 0xaa80, 0xaadf),
  (["MEETEIMAYEKEXTENSIONS", "MEETEIMAYEKEXT"], 0xaae0, 0xaaff),
  (["ETHIOPICEXTENDEDA", "ETHIOPICEXTA"], 0xab00, 0xab2f),
  (["LATINEXTENDEDE", "LATINEXTE"], 0xab30, 0xab6f),
  (["CHEROKEESUPPLEMENT", "CHEROKEESUP"], 0xab70, 0xabbf),
  (["MEETEIMAYEK"], 0xabc0, 0xabff),
  (["HANGULSYLLABLES", "HANGUL"], 0xac00, 0xd7af),
  (["HANGULJAMOEXTENDEDB", "JAMOEXTB"], 0xd7b0, 0xd7ff),
  (["HIGHSURROGATES"], 0xd800, 0xdb7f),
  (["HIGHPRIVATEUSESURROGATES", "HIGHPUSURROGATES"], 0xdb80, 0xdbff),
  (["LOWSURROGATES"], 0xdc00, 0xdfff),
  (["PRIVATEUSEAREA", "PUA", "PRIVATEUSE"], 0xe000, 0xf8ff),
  (["CJKCOMPATIBILITYIDEOGRAPHS", "CJKCOMPATIDEOGRAPHS"], 0xf900, 0xfaff),
  (["ALPHABETICPRESENTATIONFORMS", "ALPHABETICPF"], 0xfb00, 0xfb4f),
  (["ARABICPRESENTATIONFORMSA", "ARABICPFA"], 0xfb50, 0xfdff),
  (["VARIATIONSELECTORS", "VS"], 0xfe00, 0xfe0f),
  (["VERTICALFORMS"], 0xfe10, 0xfe1f),
  (["COMBININGHALFMARKS", "HALFMARKS"], 0xfe20, 0xfe2f),
  (["CJKCOMPATIBILITYFORMS", "CJKCOMPATFORMS"], 0xfe30, 0xfe4f),
  (["SMALLFORMVARIANTS", "SMALLFORMS"], 0xfe50, 0xfe6f),
  (["ARABICPRESENTATIONFORMSB", "ARABICPFB"], 0xfe70, 0xfeff),
  (["HALFWIDTHANDFULLWIDTHFORMS", "HALFANDFULLFORMS"], 0xff00, 0xffef),
  (["SPECIALS"], 0xfff0, 0xffff),
  (["LINEARBSYLLABARY"], 0x10000, 0x1007f),
  (["LINEARBIDEOGRAMS"], 0x10080, 0x100ff),
  (["AEGEANNUMBERS"], 0x10100, 0x1013f),
  (["ANCIENTGREEKNUMBERS"], 0x10140, 0x1018f),
  (["ANCIENTSYMBOLS"], 0x10190, 0x101cf),
  (["PHAISTOSDISC", "PHAISTOS"], 0x101d0, 0x101ff),
  (["LYCIAN"], 0x10280, 0x1029f),
  (["CARIAN"], 0x102a0, 0x102df),
  (["COPTICEPACTNUMBERS"], 0x102e0, 0x102ff),
  (["OLDITALIC"], 0x10300, 0x1032f),
  (["GOTHIC"], 0x10330, 0x1034f),
  (["OLDPERMIC"], 0x10350, 0x1037f),
  (["UGARITIC"], 0x10380, 0x1039f),
  (["OLDPERSIAN"], 0x103a0, 0x103df),
  (["DESERET"], 0x10400, 0x1044f),
  (["SHAVIAN"], 0x10450, 0x1047f),
  (["OSMANYA"], 0x10480, 0x104af),
  (["OSAGE"], 0x104b0, 0x104ff),
  (["ELBASAN"], 0x10500, 0x1052f),
  (["CAUCASIANALBANIAN"], 0x10530, 0x1056f),
  (["VITHKUQI"], 0x10570, 0x105bf),
  (["TODHRI"], 0x105c0, 0x105ff),
  (["LINEARA"], 0x10600, 0x1077f),
  (["LATINEXTENDEDF", "LATINEXTF"], 0x10780, 0x107bf),
  (["CYPRIOTSYLLABARY"], 0x10800, 0x1083f),
  (["IMPERIALARAMAIC"], 0x10840, 0x1085f),
  (["PALMYRENE"], 0x10860, 0x1087f),
  (["NABATAEAN"], 0x10880, 0x108af),
  (["HATRAN"], 0x108e0, 0x108ff),
  (["PHOENICIAN"], 0x10900, 0x1091f),
  (["LYDIAN"], 0x10920, 0x1093f),
  (["SIDETIC"], 0x10940, 0x1095f),
  (["MEROITICHIEROGLYPHS"], 0x10980, 0x1099f),
  (["MEROITICCURSIVE"], 0x109a0, 0x109ff),
  (["KHAROSHTHI"], 0x10a00, 0x10a5f),
  (["OLDSOUTHARABIAN"], 0x10a60, 0x10a7f),
  (["OLDNORTHARABIAN"], 0x10a80, 0x10a9f),
  (["MANICHAEAN"], 0x10ac0, 0x10aff),
  (["AVESTAN"], 0x10b00, 0x10b3f),
  (["INSCRIPTIONALPARTHIAN"], 0x10b40, 0x10b5f),
  (["INSCRIPTIONALPAHLAVI"], 0x10b60, 0x10b7f),
  (["PSALTERPAHLAVI"], 0x10b80, 0x10baf),
  (["OLDTURKIC"], 0x10c00, 0x10c4f),
  (["OLDHUNGARIAN"], 0x10c80, 0x10cff),
  (["HANIFIROHINGYA"], 0x10d00, 0x10d3f),
  (["GARAY"], 0x10d40, 0x10d8f),
  (["RUMINUMERALSYMBOLS", "RUMI"], 0x10e60, 0x10e7f),
  (["YEZIDI"], 0x10e80, 0x10ebf),
  (["ARABICEXTENDEDC", "ARABICEXTC"], 0x10ec0, 0x10eff),
  (["OLDSOGDIAN"], 0x10f00, 0x10f2f),
  (["SOGDIAN"], 0x10f30, 0x10f6f),
  (["OLDUYGHUR"], 0x10f70, 0x10faf),
  (["CHORASMIAN"], 0x10fb0, 0x10fdf),
  (["ELYMAIC"], 0x10fe0, 0x10fff),
  (["BRAHMI"], 0x11000, 0x1107f),
  (["KAITHI"], 0x11080, 0x110cf),
  (["SORASOMPENG"], 0x110d0, 0x110ff),
  (["CHAKMA"], 0x11100, 0x1114f),
  (["MAHAJANI"], 0x11150, 0x1117f),
  (["SHARADA"], 0x11180, 0x111df),
  (["SINHALAARCHAICNUMBERS"], 0x111e0, 0x111ff),
  (["KHOJKI"], 0x11200, 0x1124f),
  (["MULTANI"], 0x11280, 0x112af),
  (["KHUDAWADI"], 0x112b0, 0x112ff),
  (["GRANTHA"], 0x11300, 0x1137f),
  (["TULUTIGALARI"], 0x11380, 0x113ff),
  (["NEWA"], 0x11400, 0x1147f),
  (["TIRHUTA"], 0x11480, 0x114df),
  (["SIDDHAM"], 0x11580, 0x115ff),
  (["MODI"], 0x11600, 0x1165f),
  (["MONGOLIANSUPPLEMENT", "MONGOLIANSUP"], 0x11660, 0x1167f),
  (["TAKRI"], 0x11680, 0x116cf),
  (["MYANMAREXTENDEDC"], 0x116d0, 0x116ff),
  (["AHOM"], 0x11700, 0x1174f),
  (["DOGRA"], 0x11800, 0x1184f),
  (["WARANGCITI"], 0x118a0, 0x118ff),
  (["DIVESAKURU"], 0x11900, 0x1195f),
  (["NANDINAGARI"], 0x119a0, 0x119ff),
  (["ZANABAZARSQUARE"], 0x11a00, 0x11a4f),
  (["SOYOMBO"], 0x11a50, 0x11aaf),
  (["UNIFIEDCANADIANABORIGINALSYLLABICSEXTENDEDA", "UCASEXTA"], 0x11ab0, 0x11abf),
  (["PAUCINHAU"], 0x11ac0, 0x11aff),
  (["DEVANAGARIEXTENDEDA", "DEVANAGARIEXTA"], 0x11b00, 0x11b5f),
  (["SHARADASUPPLEMENT"], 0x11b60, 0x11b7f),
  (["SUNUWAR"], 0x11bc0, 0x11bff),
  (["BHAIKSUKI"], 0x11c00, 0x11c6f),
  (["MARCHEN"], 0x11c70, 0x11cbf),
  (["MASARAMGONDI"], 0x11d00, 0x11d5f),
  (["GUNJALAGONDI"], 0x11d60, 0x11daf),
  (["TOLONGSIKI"], 0x11db0, 0x11def),
  (["MAKASAR"], 0x11ee0, 0x11eff),
  (["KAWI"], 0x11f00, 0x11f5f),
  (["LISUSUPPLEMENT", "LISUSUP"], 0x11fb0, 0x11fbf),
  (["TAMILSUPPLEMENT", "TAMILSUP"], 0x11fc0, 0x11fff),
  (["CUNEIFORM"], 0x12000, 0x123ff),
  (["CUNEIFORMNUMBERSANDPUNCTUATION", "CUNEIFORMNUMBERS"], 0x12400, 0x1247f),
  (["EARLYDYNASTICCUNEIFORM"], 0x12480, 0x1254f),
  (["CYPROMINOAN"], 0x12f90, 0x12fff),
  (["EGYPTIANHIEROGLYPHS"], 0x13000, 0x1342f),
  (["EGYPTIANHIEROGLYPHFORMATCONTROLS"], 0x13430, 0x1345f),
  (["EGYPTIANHIEROGLYPHSEXTENDEDA"], 0x13460, 0x143ff),
  (["ANATOLIANHIEROGLYPHS"], 0x14400, 0x1467f),
  (["GURUNGKHEMA"], 0x16100, 0x1613f),
  (["BAMUMSUPPLEMENT", "BAMUMSUP"], 0x16800, 0x16a3f),
  (["MRO"], 0x16a40, 0x16a6f),
  (["TANGSA"], 0x16a70, 0x16acf),
  (["BASSAVAH"], 0x16ad0, 0x16aff),
  (["PAHAWHHMONG"], 0x16b00, 0x16b8f),
  (["KIRATRAI"], 0x16d40, 0x16d7f),
  (["MEDEFAIDRIN"], 0x16e40, 0x16e9f),
  (["BERIAERFE"], 0x16ea0, 0x16edf),
  (["MIAO"], 0x16f00, 0x16f9f),
  (["IDEOGRAPHICSYMBOLSANDPUNCTUATION", "IDEOGRAPHICSYMBOLS"], 0x16fe0, 0x16fff),
  (["TANGUT"], 0x17000, 0x187ff),
  (["TANGUTCOMPONENTS"], 0x18800, 0x18aff),
  (["KHITANSMALLSCRIPT"], 0x18b00, 0x18cff),
  (["TANGUTSUPPLEMENT", "TANGUTSUP"], 0x18d00, 0x18d7f),
  (["TANGUTCOMPONENTSSUPPLEMENT"], 0x18d80, 0x18dff),
  (["KANAEXTENDEDB", "KANAEXTB"], 0x1aff0, 0x1afff),
  (["KANASUPPLEMENT", "KANASUP"], 0x1b000, 0x1b0ff),
  (["KANAEXTENDEDA", "KANAEXTA"], 0x1b100, 0x1b12f),
  (["SMALLKANAEXTENSION", "SMALLKANAEXT"], 0x1b130, 0x1b16f),
  (["NUSHU"], 0x1b170, 0x1b2ff),
  (["DUPLOYAN"], 0x1bc00, 0x1bc9f),
  (["SHORTHANDFORMATCONTROLS"], 0x1bca0, 0x1bcaf),
  (["SYMBOLSFORLEGACYCOMPUTINGSUPPLEMENT"], 0x1cc00, 0x1cebf),
  (["MISCELLANEOUSSYMBOLSSUPPLEMENT"], 0x1cec0, 0x1ceff),
  (["ZNAMENNYMUSICALNOTATION", "ZNAMENNYMUSIC"], 0x1cf00, 0x1cfcf),
  (["BYZANTINEMUSICALSYMBOLS", "BYZANTINEMUSIC"], 0x1d000, 0x1d0ff),
  (["MUSICALSYMBOLS", "MUSIC"], 0x1d100, 0x1d1ff),
  (["ANCIENTGREEKMUSICALNOTATION", "ANCIENTGREEKMUSIC"], 0x1d200, 0x1d24f),
  (["KAKTOVIKNUMERALS"], 0x1d2c0, 0x1d2df),
  (["MAYANNUMERALS"], 0x1d2e0, 0x1d2ff),
  (["TAIXUANJINGSYMBOLS", "TAIXUANJING"], 0x1d300, 0x1d35f),
  (["COUNTINGRODNUMERALS", "COUNTINGROD"], 0x1d360, 0x1d37f),
  (["MATHEMATICALALPHANUMERICSYMBOLS", "MATHALPHANUM"], 0x1d400, 0x1d7ff),
  (["SUTTONSIGNWRITING"], 0x1d800, 0x1daaf),
  (["LATINEXTENDEDG", "LATINEXTG"], 0x1df00, 0x1dfff),
  (["GLAGOLITICSUPPLEMENT", "GLAGOLITICSUP"], 0x1e000, 0x1e02f),
  (["CYRILLICEXTENDEDD", "CYRILLICEXTD"], 0x1e030, 0x1e08f),
  (["NYIAKENGPUACHUEHMONG"], 0x1e100, 0x1e14f),
  (["TOTO"], 0x1e290, 0x1e2bf),
  (["WANCHO"], 0x1e2c0, 0x1e2ff),
  (["NAGMUNDARI"], 0x1e4d0, 0x1e4ff),
  (["OLONAL"], 0x1e5d0, 0x1e5ff),
  (["TAIYO"], 0x1e6c0, 0x1e6ff),
  (["ETHIOPICEXTENDEDB", "ETHIOPICEXTB"], 0x1e7e0, 0x1e7ff),
  (["MENDEKIKAKUI"], 0x1e800, 0x1e8df),
  (["ADLAM"], 0x1e900, 0x1e95f),
  (["INDICSIYAQNUMBERS"], 0x1ec70, 0x1ecbf),
  (["OTTOMANSIYAQNUMBERS"], 0x1ed00, 0x1ed4f),
  (["ARABICMATHEMATICALALPHABETICSYMBOLS", "ARABICMATH"], 0x1ee00, 0x1eeff),
  (["MAHJONGTILES", "MAHJONG"], 0x1f000, 0x1f02f),
  (["DOMINOTILES", "DOMINO"], 0x1f030, 0x1f09f),
  (["PLAYINGCARDS"], 0x1f0a0, 0x1f0ff),
  (["ENCLOSEDALPHANUMERICSUPPLEMENT", "ENCLOSEDALPHANUMSUP"], 0x1f100, 0x1f1ff),
  (["ENCLOSEDIDEOGRAPHICSUPPLEMENT", "ENCLOSEDIDEOGRAPHICSUP"], 0x1f200, 0x1f2ff),
  (["MISCELLANEOUSSYMBOLSANDPICTOGRAPHS", "MISCPICTOGRAPHS"], 0x1f300, 0x1f5ff),
  (["EMOTICONS"], 0x1f600, 0x1f64f),
  (["ORNAMENTALDINGBATS"], 0x1f650, 0x1f67f),
  (["TRANSPORTANDMAPSYMBOLS", "TRANSPORTANDMAP"], 0x1f680, 0x1f6ff),
  (["ALCHEMICALSYMBOLS", "ALCHEMICAL"], 0x1f700, 0x1f77f),
  (["GEOMETRICSHAPESEXTENDED", "GEOMETRICSHAPESEXT"], 0x1f780, 0x1f7ff),
  (["SUPPLEMENTALARROWSC", "SUPARROWSC"], 0x1f800, 0x1f8ff),
  (["SUPPLEMENTALSYMBOLSANDPICTOGRAPHS", "SUPSYMBOLSANDPICTOGRAPHS"], 0x1f900, 0x1f9ff),
  (["CHESSSYMBOLS"], 0x1fa00, 0x1fa6f),
  (["SYMBOLSANDPICTOGRAPHSEXTENDEDA", "SYMBOLSANDPICTOGRAPHSEXTA"], 0x1fa70, 0x1faff),
  (["SYMBOLSFORLEGACYCOMPUTING"], 0x1fb00, 0x1fbff),
  (["CJKUNIFIEDIDEOGRAPHSEXTENSIONB", "CJKEXTB"], 0x20000, 0x2a6df),
  (["CJKUNIFIEDIDEOGRAPHSEXTENSIONC", "CJKEXTC"], 0x2a700, 0x2b73f),
  (["CJKUNIFIEDIDEOGRAPHSEXTENSIOND", "CJKEXTD"], 0x2b740, 0x2b81f),
  (["CJKUNIFIEDIDEOGRAPHSEXTENSIONE", "CJKEXTE"], 0x2b820, 0x2ceaf),
  (["CJKUNIFIEDIDEOGRAPHSEXTENSIONF", "CJKEXTF"], 0x2ceb0, 0x2ebef),
  (["CJKUNIFIEDIDEOGRAPHSEXTENSIONI"], 0x2ebf0, 0x2ee5f),
  (["CJKCOMPATIBILITYIDEOGRAPHSSUPPLEMENT", "CJKCOMPATIDEOGRAPHSSUP"], 0x2f800, 0x2fa1f),
  (["CJKUNIFIEDIDEOGRAPHSEXTENSIONG", "CJKEXTG"], 0x30000, 0x3134f),
  (["CJKUNIFIEDIDEOGRAPHSEXTENSIONH", "CJKEXTH"], 0x31350, 0x323af),
  (["CJKUNIFIEDIDEOGRAPHSEXTENSIONJ"], 0x323b0, 0x3347f),
  (["TAGS"], 0xe0000, 0xe007f),
  (["VARIATIONSELECTORSSUPPLEMENT", "VSSUP"], 0xe0100, 0xe01ef),
  (["SUPPLEMENTARYPRIVATEUSEAREAA", "SUPPUAA"], 0xf0000, 0xfffff),
  (["SUPPLEMENTARYPRIVATEUSEAREAB", "SUPPUAB"], 0x100000, 0x10ffff)]

end Patchwork.Text
