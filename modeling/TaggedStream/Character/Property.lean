import TaggedStream.Character.Set

/-!
Properties that a character has or lacks.
-/

namespace TaggedStream

/-- The properties that a character has or lacks. -/
inductive Property where
  | asciiHexDigit
  | alphabetic
  | bidiControl
  | bidiMirrored
  | caseIgnorable
  | cased
  | changesWhenCasefolded
  | changesWhenCasemapped
  | changesWhenLowercased
  | changesWhenTitlecased
  | changesWhenUppercased
  | dash
  | defaultIgnorableCodePoint
  | deprecated
  | diacritic
  | emoji
  | emojiComponent
  | emojiModifier
  | emojiModifierBase
  | emojiPresentation
  | extendedPictographic
  | extender
  | graphemeBase
  | graphemeExtend
  | graphemeLink
  | hexDigit
  | hyphen
  | idsBinaryOperator
  | idsTrinaryOperator
  | idsUnaryOperator
  | idCompatMathContinue
  | idCompatMathStart
  | idContinue
  | idStart
  | ideographic
  | joinControl
  | logicalOrderException
  | lowercase
  | math
  | modifierCombiningMark
  | noncharacterCodePoint
  | otherAlphabetic
  | otherDefaultIgnorableCodePoint
  | otherGraphemeExtend
  | otherIdContinue
  | otherIdStart
  | otherLowercase
  | otherMath
  | otherUppercase
  | patternSyntax
  | patternWhiteSpace
  | prependedConcatenationMark
  | quotationMark
  | radical
  | regionalIndicator
  | sentenceTerminal
  | softDotted
  | terminalPunctuation
  | unifiedIdeograph
  | uppercase
  | variationSelector
  | whiteSpace
  | xidContinue
  | xidStart
deriving DecidableEq, Repr, Inhabited

namespace Property

/-- All properties. -/
def all : List Property :=
  [.asciiHexDigit, .alphabetic, .bidiControl, .bidiMirrored, .caseIgnorable, .cased,
    .changesWhenCasefolded, .changesWhenCasemapped, .changesWhenLowercased,
    .changesWhenTitlecased, .changesWhenUppercased, .dash, .defaultIgnorableCodePoint,
    .deprecated, .diacritic, .emoji, .emojiComponent, .emojiModifier, .emojiModifierBase,
    .emojiPresentation, .extendedPictographic, .extender, .graphemeBase, .graphemeExtend,
    .graphemeLink, .hexDigit, .hyphen, .idsBinaryOperator, .idsTrinaryOperator,
    .idsUnaryOperator, .idCompatMathContinue, .idCompatMathStart, .idContinue, .idStart,
    .ideographic, .joinControl, .logicalOrderException, .lowercase, .math,
    .modifierCombiningMark, .noncharacterCodePoint, .otherAlphabetic,
    .otherDefaultIgnorableCodePoint, .otherGraphemeExtend, .otherIdContinue, .otherIdStart,
    .otherLowercase, .otherMath, .otherUppercase, .patternSyntax, .patternWhiteSpace,
    .prependedConcatenationMark, .quotationMark, .radical, .regionalIndicator,
    .sentenceTerminal, .softDotted, .terminalPunctuation, .unifiedIdeograph, .uppercase,
    .variationSelector, .whiteSpace, .xidContinue, .xidStart]

/-- The names of a property, in lower case and without blanks. -/
def names : Property → List String
  | .asciiHexDigit => ["ahex", "asciihexdigit"]
  | .alphabetic => ["alpha", "alphabetic"]
  | .bidiControl => ["bidic", "bidicontrol"]
  | .bidiMirrored => ["bidim", "bidimirrored"]
  | .caseIgnorable => ["ci", "caseignorable"]
  | .cased => ["cased"]
  | .changesWhenCasefolded => ["cwcf", "changeswhencasefolded"]
  | .changesWhenCasemapped => ["cwcm", "changeswhencasemapped"]
  | .changesWhenLowercased => ["cwl", "changeswhenlowercased"]
  | .changesWhenTitlecased => ["cwt", "changeswhentitlecased"]
  | .changesWhenUppercased => ["cwu", "changeswhenuppercased"]
  | .dash => ["dash"]
  | .defaultIgnorableCodePoint => ["di", "defaultignorablecodepoint"]
  | .deprecated => ["dep", "deprecated"]
  | .diacritic => ["dia", "diacritic"]
  | .emoji => ["emoji"]
  | .emojiComponent => ["ecomp", "emojicomponent"]
  | .emojiModifier => ["emod", "emojimodifier"]
  | .emojiModifierBase => ["ebase", "emojimodifierbase"]
  | .emojiPresentation => ["epres", "emojipresentation"]
  | .extendedPictographic => ["extpict", "extendedpictographic"]
  | .extender => ["ext", "extender"]
  | .graphemeBase => ["grbase", "graphemebase"]
  | .graphemeExtend => ["grext", "graphemeextend"]
  | .graphemeLink => ["grlink", "graphemelink"]
  | .hexDigit => ["hex", "hexdigit"]
  | .hyphen => ["hyphen"]
  | .idsBinaryOperator => ["idsb", "idsbinaryoperator"]
  | .idsTrinaryOperator => ["idst", "idstrinaryoperator"]
  | .idsUnaryOperator => ["idsu", "idsunaryoperator"]
  | .idCompatMathContinue => ["idcompatmathcontinue"]
  | .idCompatMathStart => ["idcompatmathstart"]
  | .idContinue => ["idc", "idcontinue"]
  | .idStart => ["ids", "idstart"]
  | .ideographic => ["ideo", "ideographic"]
  | .joinControl => ["joinc", "joincontrol"]
  | .logicalOrderException => ["loe", "logicalorderexception"]
  | .lowercase => ["lower", "lowercase"]
  | .math => ["math"]
  | .modifierCombiningMark => ["mcm", "modifiercombiningmark"]
  | .noncharacterCodePoint => ["nchar", "noncharactercodepoint"]
  | .otherAlphabetic => ["oalpha", "otheralphabetic"]
  | .otherDefaultIgnorableCodePoint => ["odi", "otherdefaultignorablecodepoint"]
  | .otherGraphemeExtend => ["ogrext", "othergraphemeextend"]
  | .otherIdContinue => ["oidc", "otheridcontinue"]
  | .otherIdStart => ["oids", "otheridstart"]
  | .otherLowercase => ["olower", "otherlowercase"]
  | .otherMath => ["omath", "othermath"]
  | .otherUppercase => ["oupper", "otheruppercase"]
  | .patternSyntax => ["patsyn", "patternsyntax"]
  | .patternWhiteSpace => ["patws", "patternwhitespace"]
  | .prependedConcatenationMark => ["pcm", "prependedconcatenationmark"]
  | .quotationMark => ["qmark", "quotationmark"]
  | .radical => ["radical"]
  | .regionalIndicator => ["ri", "regionalindicator"]
  | .sentenceTerminal => ["sterm", "sentenceterminal"]
  | .softDotted => ["sd", "softdotted"]
  | .terminalPunctuation => ["term", "terminalpunctuation"]
  | .unifiedIdeograph => ["uideo", "unifiedideograph"]
  | .uppercase => ["upper", "uppercase"]
  | .variationSelector => ["vs", "variationselector"]
  | .whiteSpace => ["wspace", "space", "whitespace"]
  | .xidContinue => ["xidc", "xidcontinue"]
  | .xidStart => ["xids", "xidstart"]

/-- The table of the characters that have a property. -/
def table : Property → List String
  | .asciiHexDigit =>
    ["J0975Ha5"]
  | .alphabetic =>
    ["K1H96H9If0a0405H61He1HS94be47010L60HdH11123106012101H31L21Oa8Q51I5206I8I7d101111108Ha43Hda5J",
     "716eM5174742a220H0IfdM4H8I091405H72H2H3H87a5H716708I9ab366Kb1f124edH217212H51610333721211080",
     "4114c1a04215412H516111111444121407310H15b218121H516111438121130f3H534217212H5161114372121914",
     "114d0H0115321331101131323b4432123060I8c121H61f37121281121123Hc317121H61914371212815213d2cc12",
     "1I8271212105374H65121H13H7181026851017H21dJ95660J3110141H7101H212241060e3I00Jf71I34H24f1I3K3",
     "J61024H0Jfa32I510502Ia1HKc132610132I8132I0132610132e1J8132K2I5fH0L5253IMb2H01H95Ka3a7H3bH4cH",
     "3cc1211cJ32H2e040K3L87Ia5K5aHe1b48H7Hd24bIb4H9J6Hb4Je2H3J20H71b2J1J31e17J3I923aIb1aeJ6H62aI3",
     "2a5Ia22I931511305RfH3I1bHH5252I525271010101He2J41610321633254c5216N40d0H0cM50402910346010101",
     "31a235440H1I8JIdJ3NH6U46331cI510502J770H0H696161616161616161HfIf0HT52H9874244L5621L9135Ia1Ld",
     "H1HfJ0fIG0HPRfK0LMOcK3Id2HGc3fa1H4Ie573N0I782M62L1H4H41I0H8J3cK310Ic53012aI05I2dHc3J21bf0H0f",
     "a41J69dH2H63K41010H822f23b5252596161Ia1d6NaH5IRQ3cH64J0IHG4HMd2M9I66c45b1c141011111MbI1HMaH2",
     "Jf2J5I8bN441O6I4H96H9bL835252522I3b1H91H2111e2dI2NaK5J4HGbHc3J0IfHfdHd5Ia5Hd2I34714IaPdH2I34",
     "I34I78J3ca1e16111a1e16113J3cHJ69H5a7H851I918K55201Ib11302H6aH69HeK1H211aH5aH96H9I6J761K03115",
     "7121HcIaHc3HcI371HbHbJ5aH5aH2dH1MeK8J7J2dJ2dI7I2Hb305H6VaI91131H05J223Hca08H5IaH1IeH4HbH69K5",
     "Ib4aJ890dH8H7J2H138I2309Jf1391a010I3H11I12063Je610131e197J8H7317212H5161114372121306056Hc910",
     "201I519102013113010IcK11213H42HeK12110R8J526H95I2Je1030JbJ520K7Ha2dH56R9J8M7JfHf72027111Hd11",
     "2123Ld72Id251011HbJ229H1K750H2K8M77L8I0Hf81Ic1610J1Hd2H51dK96111Ib3011121021H85111I4111310H7",
     "IbHG4H69H01I832Mf0KfJP9M6MeH1S3QKcM0fKIfH15H9VPa5IK6HQR9IeMT1IJ87HeH1KeH1HdH2IfH03HfH45H2HR0",
     "IcT3JfI0H82H8IcKa4J87H0K0110c69HST5I9HfM1N2IHVd316111HI2f0Hd220e38HObPG4Ma5c387940HNM1L41K61",
     "12021231b10161K01327161Hb131410361HL32H81H81He1H81He1H81He1H81He1H817NJ4He65T561H02611145JdI",
     "10N0Ica6H00HK1HdH2IbHU4HbU4Hd20SfHe1H581U0613111e1S4JbK33030KR431Ha1110201913101060401010121",
     "110201010101011102316131310191H052141H0IN4H96H96H9UN6QMTfI0HHHd2HMOd2HTJ0fIMdPQ2IHdLU2HJKa5I",
     "HI9"]
  | .bidiControl =>
    ["MHc0HPV11Ha4J73"]
  | .bidiMirrored =>
    ["I81H2010Hc010Hd010Id0f0UNe3NLd1PPc1a1J61e1R10S033530313313101048501H1539110171Hf2350912H2519",
     "4214H72f83H4171KJddKa023111253523dHP3H5251d807530441124401221a521cH213201020135162H81b143112",
     "14Ia271I750103452403410HG00IG333111e129Ib7HQb927SUJd551Q21H2010Hc010Hd0101111TNN70J90J90J90J",
     "90"]
  | .caseIgnorable =>
    ["I7060b0I3010K7040104021HV7Rf41409110Vb6Sf050J1Ic10111110Ic0b5aa10I30aH4H00M571913I1010HeHaLb",
     "aJaa4020H8H7Ib2Ic07158I9J9J7010474036a1d0f0Ja04380H41Ha021J9041412230He130b1J90441140H41H651",
     "0Ja020138071b1He0Jd0c0J2030J7012521371b1Hd0Ja0206051H41Hc1J914380H41Hd0K807210La026b8M202890",
     "16K91Hb01010J7d14115a1I390M63151121H9142H03d02160f0Le0IM02JR22Hd1He1He1K0116802a3050Id4J30K1",
     "1I20N62419062Tb120Ja0161010276920I708Id2bH43J00141050I88c1I032112J80113012Ja721K05L221c16406",
     "031J2Jed0I2M4HRd012b2d2d2d1c481a02024J141910d0H0cJ3I0ROb1N12Nd0f0M0HfIf0HT50I433450Ld5Ld2MVH",
     "60KU25HGe0M231910Hc3L01eI1Ke0H72M6331803040H9150P71HaH1d0I67H9aIe2J002321H10H51K252121c080I3",
     "0b0J3012215110Hb0e15110M4492N902040KVJ00P3H0IJdf30cfI2020Q907060b0I3010If0Id1K30H52IG10U20P5",
     "4KG551I918IK621153I8240Q51IJd3I60Ha410HJb1H80J45K6aJ13Nb0J6eI9021a2J13212040a0J22I4417Je0c1J",
     "48a320Lf220116020Pd037H51J9130I5634K65d01010e1L572210H70L45104111Ue36111Hb1L572011Ma0102510M",
     "50102314HG3811HG011040P032140I09I8523809522Iec11S601210S961510L2H5261111Na530111610K813010K1",
     "0HH91b1J445010H70HKT5H06eISS8b32PS04Jb693HVc2I81HU20JfH0K0111d1JVVc31611SPe113HILcId2H6II029",
     "f26He3P42NRbJ64J180e0H641eLL061H02611145JdI10Q0dHN00Jd3HVb4Ve1V3020715090HT06Md7QQf4SGSG10He",
     "LfO0Uf"]
  | .cased =>
    ["K1H96H9If0a0405H61He1S2134Sf2I271He4M00Ia32123106012101H31L21Oa8Q51I59I8RH7I510502Ia13IQ0L52",
     "5OO2a5Ia22K0RfK0HH5252I525271010101He2J41610321633254c5216N40d0H0cM5040291034601010131540235",
     "440H1Hf31JJ1J3NH6U46331cI51050NPH2IdH2HdO4M5331KcH4512JJ5Ia1d6KfKVK06c4KG9H96H9KQ5KfM0I34I3N",
     "4a1e16111a1e1611HS30221I918KS5J2dJ2LdH5aH5RHaJfLLM0JfI0H82H8MLIcL41K6112021231b10161K0132716",
     "1Hb131410361HL32H81H81He1H81He1H81He1H81He1H817NJ491H365HG5JdOP2K3NUcH96H96H9"]
  | .changesWhenCasefolded =>
    ["K1H9La0aH617I0010101010101010101010101010101010101010101010101010101020101010101010101110101",
     "01010101010101010101010101010101010101011101010111011122311123111101011102011121011307111111",
     "01010101010101020101010101010101021101210101010101010101010101010101010101010101010101010101",
     "010107111201310101010V60Ia0103080601210111H018H60c231101010101010101010101010112110112J2J001",
     "01010101010101010101010101010109010101010101010101010101010101010101010101010101010101110101",
     "01010102010101010101010101010101010101010101010101010101010101010101010101010101010101010101",
     "010101010102I5J00RH8I51050JIa5OO296Ia22HK001010101010101010101010101010101010101010101010101",
     "01010101010101010101010101010101010101010101010101010101010101010101010101010101010101010101",
     "01010105120101010101010101010101010101010101010101010101010101010101010101010101010101010101",
     "0101010101010109785a78785b010101087H0If22255225b3c45225HI903160IdfH30JJ2H9NJ0IfJ001220101013",
     "10208210101010101010101010101010101010101010101010101010101010101010101010101010101010101010",
     "101010101010801040NPKd010101010101010101010101010101010101010101010H301010101010101010101010",
     "1010O7010101010101030101010101010101010101010101010101010101010101010101010101010a0101110101",
     "01040102010301010101010101010101414101010101010101310111010101010101010H80JNaKfKVK06c4KG9H9K",
     "S5I7O8I3Pca1e1611MUaJ2PdH5RJaHfLLO0HfK0H8NQK7I1"]
  | .changesWhenCasemapped =>
    ["K1H96H9Ja0aH61He1Jf1L31Hb2d21104Lc1H16Ha1110113113142011207020113550a1Q60Ia32132106012101H31",
     "Ie3I0141O48Q51I5aI6RH8I510502Ia22IQ0L525OO2a5Ia22R9030H00N1Pb201N5252I525271010101He2J416103",
     "21633254c5216HI903160Hb0H1Hf31JJ1J3NH6N011117M57331cI51050NPH2IdH2HbO6d2Jd9e32241H81IcH81JLc",
     "0HcKfKVK06c4KG9H96H9KQ5KfM0I34I3N4a1e16111a1e1611MS3J2dJ2LdH5aH5RHaJfLLM0JfI0H82H8NQIcK3"]
  | .changesWhenLowercased =>
    ["K1H9M5H616I101010101010101010101010101010101010101010101010101010102010101010101010201010101",
     "01010101010101010101010101010101010101110103110111223111231111010111020111210113071111110101",
     "01010101010201010101010101010211012101010101010101010101010101010101010101010101010101010101",
     "07111201310101010HI10103080601210111H018I308010101010101010101010105020112J2J001010101010101",
     "01010101010101010109010101010101010101010101010101010101010101010101010101110101010101020101",
     "01010101010101010101010101010101010101010101010101010101010101010101010101010101010101010102",
     "I5RK9I51050IT2L5OP306Ia22HK00101010101010101010101010101010101010101010101010101010101010101",
     "01010101010101010101010101010101010101010101010101010101010101010101010101010101010109010101",
     "01010101010101010101010101010101010101010101010101010101010101010101010101010101010101010109",
     "785a78785b010101087H87878784b4b3c4b4HI903160IdfH30JJ2H9NJ0IfJ0012201010131020821010101010101",
     "0101010101010101010101010101010101010101010101010101010101010101010101010101010101010801040N",
     "PKd010101010101010101010101010101010101010101010H3010101010101010101010101010O70101010101010",
     "30101010101010101010101010101010101010101010101010101010101010a01011101010104010201030101010",
     "1010101010101414101010101010101310111010101010101010H80LNIbH9KS5I7O8I3Pca1e1611MUaJ2PdH5RJaH",
     "fLLO0HfK0H8NQK7I1"]
  | .changesWhenTitlecased =>
    ["M1H9Ja0I9H7171010101010101010101010101010101010101010101010101010101020101010101010111010101",
     "01010101010101010101010101010101010101020101220102030502032202010102040203010203010401111101",
     "01010101010101110101010101010101210103010101010101010101010101010101010101010301010101010101",
     "01080211040101010151110113113142011207020113550a1Q60Ib0103032H20HbI2113210101010101010101010",
     "1014102020J4If101010101010101010101010101010101090101010101010101010101010101010101010101010",
     "10101010102010101010101110101010101010101010101010101010101010101010101010101010101010101010",
     "1010101010101010101010101010J1I6UN05OO2810Ue030H00N20101010101010101010101010101010101010101",
     "01010101010101010101010101010101010101010101010101010101010101010101010101010101010101010101",
     "01010101010101016501010101010101010101010101010101010101010101010101010101010101010101010101",
     "01010101010101010101885a78785a7878d2787878411603211832187a211HL60I1f40JKbH9NK6If103110101060",
     "20a01010101010101010101010101010101010101010101010101010101010101010101010101010101010101010",
     "1010101010801040cI51050NPH3010101010101010101010101010101010101010101010H3010101010101010101",
     "010101010O7010101010101030101010101010101010101010101010101010101010101010101010101010a01020",
     "1010101040401120101010101010101010b01010101010101040102010101010101010Ha0JLc0HcKfKVK06c4KI9H",
     "9KSdI7O8I3Pba1e1611NG3J2NdH5RJaHfLLO0HfJbH8NQKeI1"]
  | .changesWhenUppercased =>
    ["M1H9Ja0I9H7171010101010101010101010101010101010101010101010101010101020101010101010111010101",
     "01010101010101010101010101010101010101020101220102030502032202010102040203010203010511111101",
     "01010101010111010101010101010111110301010101010101010101010101010101010101030101010101010101",
     "080211040101010151110113113142011207020113550a1Q60Ib0103032H20HbI211321010101010101010101010",
     "14102020J4If10101010101010101010101010101010109010101010101010101010101010101010101010101010",
     "10101010201010101010111010101010101010101010101010101010101010101010101010101010101010101010",
     "10101010101010101010101010J1I6RK8Ia22IV85OO2810Ue030H00N201010101010101010101010101010101010",
     "10101010101010101010101010101010101010101010101010101010101010101010101010101010101010101010",
     "10101010101010101010165010101010101010101010101010101010101010101010101010101010101010101010",
     "1010101010101010101010101885a78785a7878d2J4114010321140332187a21140HL10I1f40JKbH9NK6If103110",
     "10106020a01010101010101010101010101010101010101010101010101010101010101010101010101010101010",
     "1010101010101010801040cI51050NPH3010101010101010101010101010101010101010101010H3010101010101",
     "010101010101010O7010101010101030101010101010101010101010101010101010101010101010101010101010",
     "a010201010101040401120101010101010101010b01010101010101040102010101010101010Ha0JLc0HcKfKVK06",
     "c4KI9H9KSdI7O8I3Pba1e1611NG3J2NdH5RJaHfLLO0HfJbH8NQKeI1"]
  | .dash =>
    ["Id0LLc0J30UK10KG50OG95Jd0I70f0HO60SG4020Hf140Hc0HRe0H30Mf0STP01I50a0Q90UM00HJe0"]
  | .defaultIgnorableCodePoint =>
    ["Qd0IQ10ISc0RK21ML31L54NVb4Ha4J1fHGV40SSPbfUf0Q00Kf8RSQ73HKSf7SIUO5VVf"]
  | .deprecated =>
    ["HK90LI90PG3010OI91OS55IR91TTST60"]
  | .diacritic =>
    ["Le010K70604021HV7Pe1755H114091Vd4T10J7Ic10111110O3741O614132K3HaLbaJaaI21Ne7I99H0HbJd0H0033H",
     "c0Ka0H00Me0H00Me0H00If2Jc0H0070N70Me0H00Me0H00Md1H00Nc0Mf0c510Mb0d4Kb1Hb0101041K2211Je0N0011",
     "I8144H9610a1IS12JR41He0P4a90HLb2HI40H4720J0e2a3e2bK80f0I68J61Ja0b1K21K05L2H8406022J2JeJ0I35b",
     "I5aHRd012b2d2d2d1SV02HJd0HVa5M93Lf0NLN20c110Hc1L21eI1M62M6061c0I50P70HbH1J93I40Lf0c0I40P52K1",
     "3J30M4492O01KVJ00JG1fHGe010If0Id1K30IVc0KPf51I918INd240Q51IJb5I60Ha4HOc022K6aJ13S00I90K81N81",
     "Je0Kc092M81R21L01H00H8634L9211d1Lf030Nb1Vb1Ne0N61N30HGd1HG2140Pc0L30H20L10HQ50HG2011L10K10HM",
     "71H70HKUceIST90PS04Jb6IJ41II2H0L01JVVe31611HVG1Id2H6II02358726He3UO2JdS26HN70Jd3IVe1IU06Md21",
     "2"]
  | .emoji =>
    ["I306059Mf040HVOd0c0T80H60La5f1HMf1c0Q60H9a42S70U71a090Ja314902021204020112030318250105bb1201",
     "110H2021H25101131502141b15120511011H4155132040202510201010603060a1f02040104210b1J0290e0e0HN4",
     "1HSf2H31J3040KTa0c0IL9010HRTMa0Sa0Q01c1e029KbH911H70H4028H51QeI12Mf21122L2221HG61Jeb51H77127",
     "c0232041d120819052c28220104060306L5J0K557233930113029U3b40HHbIe191R8N0c3a3J8104f2b49"]
  | .emojiComponent =>
    ["I306059HVT30T50TTIb0VJT6H9HVb4LR03SGMMcLf"]
  | .emojiModifier =>
    ["HVJVb4"]
  | .emojiModifierBase =>
    ["IMHd0Tb0H03HSSN70Jc22022N512aH5H23042127010H80S9140H5041Qe234L30H0290b0IJf02087609922J80Jd11",
     "110H121cU52Ia8"]
  | .emojiPresentation =>
    ["IJHa1Sd33020IG91H51J2bIb0H30d081H11518050H50711040207041Hc0I30104210Jd2H80e0JLb1J3040HSKQe0S",
     "a0Re029KbH910H80H402412H51QeI0c81K51H5cIa44cH0303K6101Ra2Jed31H7H20Ha1d0L6L4J0K560322333b178",
     "U3b40HHbIe191R8N0c3a3J8104f2b49"]
  | .extendedPictographic =>
    ["Q9040HVOd0c0T80H60La5f1HMf1c0Q60H9a42S70U71a090Ja314902021204020112030318250105bb1201110H202",
     "1H25101131502141b15120511011H4155132040202510201010603060a1f02040104210b1J0290e0e0HN41HSf2H3",
     "1J3040KTa0c0IL9010HRTMa0I73M4bf1f0e1I59N01c1e029H3J7Hbea0H4028139H66Rb2Mf21122L222135Vd1Jeb5",
     "1H77127c0232041d120819052c28220104060306L5J0K5572H030152cTaI5c3J87a5I87He1c32d9I6cIe191R8L87",
     "eP1HG0JVd"]
  | .extender =>
    ["R70IH81JMe0HR90IN60O90L90IV00Nf0PK30J80IM30HOe0K40HJO90Ib4M71Ld2MVH60LV60JS20H60O90Mc0H51LKN",
     "b0OH01LSb0Hb040KS70HI50N41HV22KSf0JK00KTM81KPc110e1NHK81KR10JL42"]
  | .graphemeBase =>
    ["I0LeI1c1IL1N072546101H31Tf7Q51I52J122Ie01020209Ha45H19b01IdH5f1M48061204Hf201HdHdL8b0eIa963H",
     "74090307e1H8501a5HfH0I9J9J610138312792Hc1117212H51610333011612110d1124H75015412H51611111142H",
     "8310792210c018121H516111433801130f14b708117212H516111430206121f1124H1b015321331101131323b501",
     "1321230H5H46217121H61f3033H32112149791a121H61914312011H72114912ea121I8201152121142194H9211H1",
     "3H718102691667922cIf11b78cI5110141H71019119024109923I0H72Ha10101d1I3H205024J17151cI5Ic406021",
     "2H8233f4c11251e1I710502HN8132610132I8132I0132610132e1J8132K25Hc3H96L5252IPc3L87H1dH2319H1ec1",
     "2fJ3207711b839696a596L8742I1105K5aHe43224115703I924bIb4H96a3J8213J710901185d9696dL6Ifa3371Hc",
     "9b2Hf416J7102210dIf815e3Jd5Ia2ab0d0731512205RfK0HH5252I525271010101He2J41e1d251H222181a5H77J",
     "0H012Ha1c3I1JeOb4IP9H6aH5NH32HN8315Ic10502J771fH69616161616161616I1LdI2H91L8cT5HaJ96f1L54M45",
     "Ia1Ld1L59If1NIMc3J69HLbH4Ie40aHf2Kf258TcH4H012131H824496J78K3abH8c1I58H8b0cHd6If1141211c1a46",
     "1H81I86121b21710292Hf1J21031242010H8H027b5252596161Jb4N41113396IRQ3cH64J0IHG4HMd2M9I66c4501H",
     "7141011111IO9I0fH09H6I21H213441O64Pc2He352525223616d12b1H91H2111e2dI2Na524Ic3L71c30IfIcO3Hc3",
     "J0H0Ha4I39Hd5I5aHd1I44dIaPd296I34I34I78J3bb1e16111a1e16113J3cHJ69H5a7H851I918K55201Ib11302H6",
     "1K788J0H2115I03Ha5HaI6J74H32Ief3121Hca8787JfI0I46b9J53Hc2Ha5H973c6L0K8J7J2dJ27I9c96I58H781T0",
     "He1I93021H0588I7I78H5b8H6H143I6HbH4H6901J5f64Hd1120cJ0412113eH8799I3509H18I212bJ39017411f1H3",
     "bH11Hb314511Jf610131e1a6Ie12d98117212H5161114301013212130c6Hc910201I51011f011301211I7J781301",
     "H41012HeIf11601110202389Q6Ie1163202HaI4J2811023b96cH3Ia101181696H3HcHa3011409H6R9Ie9020M4L2c",
     "72027111H71411631299K672I98313Hb0aI7614790613Idd028dK879L703010L8I1e9681I5e015aHc3HfH907020K",
     "b6111I5H509965111I4411010796Ib49V6H2239e1I3813H6L60fJ1dJPaM6Me14bS3QKcM2dKIfH15H9VPa5IK6HQR9",
     "Hdc239MS6IJ87He194L0196Hd70aIf7ea9161H45H2HR0J9S6La5H82H8IcKa5J7bcK03e49HST5I9HfM1N2IHVd3161",
     "11HI2f0Hd220e38HObPG4Ma5c38792020VM0Vc3HR36H6fH0LfN3JcV5aI62Jb52H617Hd4JcH5K130NaH3cH3cL69H8",
     "O7L41K6112021231b10161K01327161Hb131410361HL32HI32IJ1J73J271d16KN4He65HG5JdP2Ica62941HK0HdH2",
     "Ib4950HT0Hb49T6Hd2a40S0He1211162491U0613111e1S428J0K3704941JH1K3KcJcS231Ha111020191310106040",
     "1010121110201010101011102316131310191H052141H0J41HGeIb4M3ce2e1e1I4aQdJ8HcdIb4871e5PaJT83H03c",
     "3T96b40fb4J7896I78Hd2b41e8I7HL78d2c3a3J8104f2b497P21M6KG5QMTfI0HHHd2HMOd2HTJ0fIMdPQ2IHdLU2HJ",
     "Ka5IHI9"]
  | .graphemeExtend =>
    ["JG0MfHH36HG7Ic10111110K8aJ0H4H00M56252113I30HeHaLbaJa890H83181214Ib2Jb8IaH71HfJ7010474036a1H",
     "d0Ja010238090a1Ha021J9041412230He130b1J90441140H41H6510Ja011138072a1He0Jb010c090I8030J701252",
     "1371b1Hd0Ja02110321371b1Hc1J9110238090a1Hd0K8040221080L1026c7M2028b6K91Hb01010J7d14115a1I390",
     "M63151121H9142H03d02160f0IRf2JR23Hc2Hd1He1K0116802a90Id210N51I20N62419062Tb120Ja016101027692",
     "0J0Id2bH43J0942I68c1I0325J80113014J8721P821c16406031S6JfIGc0S3I0RVe2Od0M0HfIIa5M91NLT4319I01",
     "L01HH003040H9150P71HaH1d0I67H9a10Ic2J00232120I40K352121c080If0J3012215110Ia180Ue02040KVJ00IU",
     "1fH0fHMe1ILd0U20P54MO621153I8240Q51IJd3K14HJd1Kd5K6aJ13Nb0J6eI9021a2J132170Jd2I4417Je0c1J481",
     "08320Lf2236020Pd037H51J911010c090e634K30251020124210e1L572210H70L102510201111Ub0236111Hb1L57",
     "2011Ma01027M50102314HG3811V50a340P032140I09I8523809522Iec11S601210S961510L2H5261111Na5301116",
     "10K813010HLb1b1J4452H70HKU506eISS8b32PS04Jb6KH80Jf3L10b1KSQb1HIM1Id2H6IHe4358726He3P42NRbJ64",
     "J180e0H641eLL061H0261114M40Q06HN70Jd3HVc3Ve1V30207150HTa6Md6SHMT5LfO0Uf"]
  | .graphemeLink =>
    ["PKd0Nf0Nf0Nf0Nf0Nf0Nf0Nf0Md1H00Nc0Mf0Nf0S90R41MT91He0Pd0IOd0U30M51K61HHOb0NQO60I50P70Oe0Mc0H",
     "J50V60LUL10MG60I90e0J90N91Ob0N40R40M20O02N10Nf0Vc0Nf0N60N40HGd0HG31Q10L30H20L10HQ50HG41L10HQ",
     "91KHUc0"]
  | .hexDigit =>
    ["J0975Ha5VUQ9975Ha5"]
  | .hyphen =>
    ["Id0Nf0KTc0HINb0OG91UG50IU30STM70Q90L70"]
  | .idsBinaryOperator =>
    ["IVV0129HV10"]
  | .idsTrinaryOperator =>
    ["IVV21"]
  | .idsUnaryOperator =>
    ["IVVe1"]
  | .idCompatMathContinue =>
    ["R2150HVR603a1eHN3040H60HRKQ20H90Hf0H90Hf0H90Hf0H90Hf0H90"]
  | .idCompatMathStart =>
    ["IIG2040H60HRKQ20H90Hf0H90Hf0H90Hf0H90Hf0H90"]
  | .idContinue =>
    ["J097H9401H9If0a010205H61He1HS94be47010H1N411231064101H31L21Oa142Q51I5206I88Ic101111108Ha43Hd",
     "a5K94M517291H220H0Ja2M4eJ540202IdH2Hb4a5H7167Ka1O0291H217212H51610332821238041142ba010221541",
     "2H516111111201441223073107fb218121H516111429121220f329961217212H51611142821227241142910H0115",
     "321331101131323b4432132060e9H0c121H61f2812137112112329H0317121H619142812137152132912cc121J21",
     "214537429a5121H13H7181026304510176921dJ95e19I7110141H7101H62410161923I00H7169b01010491I34H31",
     "H11I390J9K96Kd2I510502Ia1HKc132610132I8132I0132610132e1J8132K22298efH0L5253IMb2H01H95Ka3a7H5",
     "9H5bH3cc1211cL3304129I121a6L87Ia5K5aHe1b4baI724bIb4H96aI5Hb4Je1Hc2a69d08d1He2bH4Kc39H18cN3cJ",
     "7893J02a5Ia22H021I65IH5252I525271010101He2J41610321633254c5216f1J11H30Hc0d0H0cJ3c403bH104029",
     "10256010101f235440H1I8QN7U468cI510502J770fH796161616161616161HfIG52H9e14244L5261Le5Ia1LdH1Hf",
     "J0fIG0HPRfK0LMOcK3Id2HGc3HbH4If491N2I582M62L1H4J640H3J3cK5a96H7301J02I3cHc3K0ea6He1J69d296H6",
     "3K8H822f24a5252596161Ia1d6Na11296IRQ3cH64J0IHG4HMd2M9I66c45b1c141011111MbI1HMaH2Jf2J5I8b4fH0",
     "f31H82I041O6H397H9401H9aL935252522I3b1H91H2111e2dI2NaK5J4O80O2Hc3J0f0HfHfdHd5Ia5Hd2I34714IaP",
     "d296I34I34I78J3ca1e16111a1e16113J3cHJ69H5a7H851I918K55201Ib11302H6aH69HeK1H211aH5aH96H9I6J76",
     "1K031157121Hc2240I0Hc3HcI371HdH9J5aH5aH2dH1MeK8J7J2dJ2dI7896I5341H6VaI91131H05J2I2a08I0HfH5I",
     "aH4HbH69K6Hff9Jb70dH8796J419438I3209K4431c10I3H11I463Je610131e197Ja596317212H516111419212220",
     "60562634b910201I51910201317d1HdKa5943HeK51089Q6J528H75I2K030b9I6J8796H3HcHa2e4966R9JaM5K9H57",
     "2027111Hd1128c9K672Id2711HbJe808K930H2K8M77L8I0f9681Ic18f9H8Hd2H51dK96111Ib3011188965111I411",
     "15796Ib49V6H69H01I834daL50KfJP9M6MeH1S3QKcM0fKIfH0H5aVPa5IK6HQR9J9MS6IJ87He196Ke196Hd24bJ693",
     "c99H45H2HR0Ic39S6JfI0H82H8IcKa4J87H0K0111b69HST5I9HfM1N2IHVd316111HI2f0Hd220e38HObPG4Ma5c387",
     "931HGL19IG6Id2H6IHe4358726He3P42HRbL41K6112021231b10161K01327161Hb131410361HL32H81H81He1H81H",
     "e1H81He1H81He1H8172J1IG0J64J180e0H641eKL0He65T561H02611145JdI10N0Ic3d2940HK1HeH1J9HT6I9T6IaS",
     "5He1H581U0613111e1S4b6I9Kb49KQ631Ha1110201913101060401010121110201010101011102316131310191H0",
     "52141H0TJ49KG6QMTfI0HHHd2HMOd2HTJ0fIMdPQ2IHdLU2HJKa5IHI9QSSO6Uf"]
  | .idStart =>
    ["K1H96H9If0a0405H61He1HS94be47010O141123106012101H31L21Oa8Q51I5206I8K7Ha43IdIaI311M210f171a22",
     "0H001HdHdL8b0H8I091405H5409030H7H87a5H716H0I9JaJ530H2079ff47212H516103330H00d112e1a085412H51",
     "6111111Hf310H32H08121H516111430H20f1H70b7212H516111430He112f0H1015321331101131323bH60J47121H",
     "61f30Ha21121He047121H6191430He211f1H18121I820H005282H855H13H7181026JaIf11c6Ja110141H71019119",
     "02410H53I00Jf71I3Hb4N3IaH40H05433031724cc0H1I510502Ia1HKc132610132I8132I0132610132e1J8132K2I",
     "5fH0L5253IMb2H01H95Ka3a7H1dH2eH1ec12fJ3I3040K3L87I8105K5aHeJ1Hd24bIb4H9J6H69J4L20LdIeH17J6Hd",
     "d1aIbHaI3I92aI32a5Ia22I931511305RfK0HH5252I525271010101He2J41610321633254c5216N40d0H0cM50402",
     "910256010101f235440H1I8QN7U46331cI510502J770H0H69616161616161616II62H9874244L5441L9135Ia1LdH",
     "1HfJ0fIG0HPRfK0LMOcK3Id2HGc3fa1H4IeH0He2KfI782M62L1H4H012131H6HdJ3eJ1Je53011bHbaH6H9Hc7IeHc0",
     "H0419a41I8H7217H4H6303J11031242010H822a72c5252596161Ia1d6N2HdIRQ3cH64J0IHG4HMd2M9I66c450191c",
     "141011111MbI1HMaH2Jf2J5I8bN441O6I4H96H9bL835252522I3b1H91H2111e2dI2NaK5J4HGbHc3J0IfHfdHd5I5a",
     "Hd2I34714IaPdH2I34I34I78J3ca1e16111a1e16113J3cHJ69H5a7H851I918K55201Ib11302H6aH69HeK1H211aH5",
     "aH96H9I6J761K00f3121HcIaHc3HcI371HbHbJ5aH5aH2dH1MeK8J7J2dJ2dI3I6Hb9H6VaI961H05J8Hca08H5IaH1I",
     "eH4HbH6cJ4J9120dIcI0H8HaI3Hd0208I230cIfe3H5010I3H11H8H31Jf610131e197IeI67212H516111430H20c4H",
     "e910201I510H9010IcJ4H23H42HeIfH4110R8IeI93I4IfH40JbIad0K7HaI56R9IbN4JfHf72027111H7f010Le72I6",
     "H0010Hc0aI770H50bIdH30H2K8S7I0Hf81I4H10J1HdN06111I5H50H95111Hfe0H7IbHG4H2f01c1I1Nc0KfJP9M6Me",
     "H1S3QKcM0fKIfH15H9VPa5IK6HQR9HdMU2IJ87HeH1KeH1HdH2IfH03HfH45H2HR0IcT3JfI0H82H8IcKa50K2cK0110",
     "e49HST5I9HfM1N2IHVd316111HI2f0Hd220e38HObPG4Ma5c3879HNM6L41K6112021231b10161K01327161Hb13141",
     "0361HL32H81H81He1H81He1H81He1H81He1H817NJ4He65HG5JdP2Ica6H00HK1HdH2IbHU4HbU4Hd20SfHe12111624",
     "91U0613111e1S4JbK370KR431Ha1110201913101060401010121110201010101011102316131310191H052141H0H",
     "HK4QMTfI0HHHd2HMOd2HTJ0fIMdPQ2IHdLU2HJKa5IHI9"]
  | .ideographic =>
    ["JGG61H98e2JS5HPRfK0LHVfLPG0HMd2M9NLGa0d49HST5I9HfM1N2IJNdHObKTG4QMTfI0HHHd2HMOd2HTJ0fIMdPQ2I",
     "HdLU2HJKa5IHI9"]
  | .joinControl =>
    ["IGGc1"]
  | .logicalOrderException =>
    ["UK04Nb4QV0220PGVa12011"]
  | .lowercase =>
    ["M1H9If0a040I4H717101010101010101010101010101010101010101010101010101010111010101010101011101",
     "01010101010101010101010101010101010101010102010122010203140203220201010201110203010212260202",
     "01010101010101011101010101010101011201030101010101010101010101010101010101010101010101010101",
     "0101016202110401010101K42I271He4M00Ib0103023H20HbI21132101010101010101010101014102021J3If101",
     "01010101010101010101010101010109010101010101010101010101010101010101010101010101010102010101",
     "01010111010101010101010101010101010101010101010101010101010101010101010101010101010101010101",
     "01010101010J0I8RK7Ia13IV85OO2810N5RfK1010101010101010101010101010101010101010101010101010101",
     "01010101010101010101010101010101010101010101010101010101010101010101010101010101010101010101",
     "01810101010101010101010101010101010101010101010101010101010101010101010101010101010101010101",
     "01010101885a78785a7878d2787878411603211832187a211N90d0H0cMd03130Hb04040218340I1f40JKbH9NK6If",
     "10311010104011173010101010101010101010101010101010101010101010101010101010101010101010101010",
     "101010101010101010101011701040cI51050NPH3010101010101010101010101010101010101010101010H30101",
     "01010101010101010101012O50101010101012101010101010101010101010101010101010101010101010101010",
     "1010101910102010101010401020121010101010101010101050501010101010101040102010101010101010H531",
     "012JJ5Ia1d6KfKVK06c4KI9H9KSdI7O8I3Pba1e1611HS30221I918LG5J2NdH5RJaHfLLO0HfJbH8MLK6H9Ha61H1Ha",
     "H9Ha310161aHaH9HaH9HaH9HaH9HaH9HaH9HaH9HaH9HaHbHcH815HaH815HaH815HaH815HaH81510NJ491H365HG5J",
     "dOR4I1"]
  | .math =>
    ["Ib0H02Hf0Hd010Id040I50Hf0IT8220Ha122IGf2HQGd0Hb2b030d0e3H54b4K1c403144H204029102560312112153",
     "d10K4H71511414Hf1061eHGb83H41La0HeHa10H80b6HRd1c945412134e01025b751J9010Hd392HL0JfHG0HVfJ0H4",
     "25SVTc0JJ7510Q20H02Hd010Hd010O3063TQ11SHM00LGfL41K6112021231b10161K01327161Hb131410361HL32HI",
     "32J1HMG031Ha1110201913101060401010121110201010101011102316131310191H052141H0J41PTe8"]
  | .modifierCombiningMark =>
    ["ML4120O306031HU111230Hf0"]
  | .noncharacterCodePoint =>
    ["VTT0HfIGe1VVVe1VVVe1VVVe1VVVe1VVVe1VVVe1VVVe1VVVe1VVVe1VVVe1VVVe1VVVe1VVVe1VVVe1VVVe1VVVe1"]
  | .otherAlphabetic =>
    ["JK50HdcIK0d10111110K8aJ0c16H00M56432140I30HefM6aM51381213Ma0Jcb366H3J612e1152a1Hd2Ja62121a0a",
     "1Hd2Ja4412140He130b2Ja71211H51H6242Ja6212191a1He0Jb43212a0I84J96121281b1Hd2Ja6121281b1f0c3Ja",
     "61212a0a1Hd2Kb51017H21Jd026H20M302511H00Q3H29a1I3Meb1023H7342122633db10a3MN41He1He1He1K2H2Rc",
     "1I20N6b48Te4J992H3Ka1b2J14J0eJc2He821J9aJ2H2HPcI1MS1J3OV6HfNON47I21HM2080H74L81J2f10J90I64Hc",
     "bId3J0bI50K3dc081Id2J20122150Ic450Ud7KVJ30OL74MO621153JH43K10HK11Kd2HG32J5dId1b2Id890Jd2I4bH",
     "21J92J0ce1Lc8206020Pd9H73Ja62121a0a1L4810201311M7c12MaH1Ud626Hd1L2e10MaaM7dHG1cV7511213010Oe",
     "62540Hc9Ia413H2aIedS87S7716L3H51dNa53011121030K241113HLc39110J0632KHTdH0UI001J673Ld1KSQc0IJM",
     "161H0261114M40ML30207150IL10NU8H96H96H9"]
  | .otherDefaultIgnorableCodePoint =>
    ["JKf0UGf1ML31OQf0HGVe0SUJb0Kf8TGGG701HdM0NfV0UGf"]
  | .otherGraphemeExtend =>
    ["PRe0H80HM60H80M60H80U8010411191M70H80N70f0PJ50He0KG00501051M50K71KH80HGI11NPI30Mc0LLTd1HII00",
     "N40HG80e090M0090201250U00c0V10HG60IN90c0MG30LGQe1MHN3165SIUQdLf"]
  | .otherIdContinue =>
    ["R70ISf0VU18MM80MJ11HGUd0SUM90"]
  | .otherIdStart =>
    ["HOO51OP10H50VMc1"]
  | .otherLowercase =>
    ["Qa0f0HV5871He4M00J40TO10SIfJed0I2I4IR10d0H0cT3fJL0H9NP21NQHe1T20O0331JM2390LSH60221I918TON5J",
     "d"]
  | .otherMath =>
    ["Le0JN1220Ha121HSI00Hb2b0I03H81e1K1c403144H204029103460312112153354Kb4231111101421414H1211016",
     "1061HI23Q8110H80H10HRd1c854512134e01025H81J9010Hd391HL61Hf9HP3H5Jf3I01TKM301040T3010TKS1L41K",
     "6112021231b10161K01327161Hb131410361HL32H81H81He1H81He1H81He1H81He1H8172J1HMG031Ha1110201913",
     "101060401010121110201010101011102316131310191H052141H0"]
  | .otherUppercase =>
    ["IHM0fJK6H9HSSM0H96H96H9"]
  | .patternSyntax =>
    ["I1ea6Ha310Ha3I2610111011404030H70Hf0HVH8H78e2H219HJ1ISfQ0IN5HeKMbIG0NfHO124H8f0STGd1HG51"]
  | .patternWhiteSpace =>
    ["94H20M40HVO81H81"]
  | .prependedConcatenationMark =>
    ["MG05T70J10HO01L00HGNTa0f0"]
  | .quotationMark =>
    ["I2040O30f0HVLc7H91UG70HS93d2SUI13Rd040La1"]
  | .radical =>
    ["IUO0H91L8cT5"]
  | .regionalIndicator =>
    ["HVHU6H9"]
  | .sentenceTerminal =>
    ["I10c0H00LK90P32R40Ib2V60Jd01031HI51MU41JH6041JG50S61Pd1Id050HJa1HM23Q21a121Hd2Rb1K11JQ40H719",
     "2SQf2HJ20d0H61HQd0NKVc0HGe1U3030HNe1L61Lf0P81P32P01V90LII6021Jb031Q90c0H00K10QV41KVd4Ic3Rd1N",
     "53Nf2O1160H01L8111Mc0HIa1N51HN515eM91V92IG5010Vb1L71HQ41IR41Ka1KRI91O50K11b0II91HI80KUG60HTU",
     "80"]
  | .softDotted =>
    ["M91S40HH90He0J40H40HK00M2010HPG90J30d030O40Pd0HQ50T61RJ20HQNQ51J21J21J21J21J21J21J21J21J21J2",
     "1J21J21OO60HJ11Ha0"]
  | .terminalPunctuation =>
    ["I10a010b130JJe080IG10J90K80e012R40Iba10Ub1J6517Hf0HG51KV41Qc045HJ71JH57JG50Nc2K71Pd230I7321H",
     "Ja1HM23Q21a112Hd2Rb4Je1JQ40H7192SQf2HJ20d040a01131HQc1NKVb1HGd2U34HNe1L61Lf0P72P32Nf0H01V90L",
     "II6021J9213Q90a010b130K1020KJa0J00KO60S70HJ61P85K45L93JR84Ic3Rd6N03Nf2O1160H01L84Mc0HIa1N52c",
     "1HM633eM91V92IG5010Vb1L7141HPe2Id0IO51Ka1LIb4KLV91O50K12a0II91HI71KUG60HTU73"]
  | .unifiedIdeograph =>
    ["JKG0HPRfK0LHVfLQGe11011a0101122HGLT6QMTfI0HHHd2HMOd2HTJ0fIMdHHQ2HJKa5IHI9"]
  | .uppercase =>
    ["K1H9M5H616I101010101010101010101010101010101010101010101010101010102010101010101010201010101",
     "01010101010101010101010101010101010101110103110111223111231111010111020111210113070202020101",
     "01010101010201010101010101010202012101010101010101010101010101010101010101010101010101010101",
     "07111201310101010HI10103080601210111H018I30223010101010101010101010105020112J2J0010101010101",
     "01010101010101010101090101010101010101010101010101010101010101010101010101011101010101010201",
     "01010101010101010101010101010101010101010101010101010101010101010101010101010101010101010101",
     "02I5RK9I51050IT2L5OP306Ia22HK001010101010101010101010101010101010101010101010101010101010101",
     "01010101010101010101010101010101010101010101010101010101010101010101010101010101010101090101",
     "01010101010101010101010101010101010101010101010101010101010101010101010101010101010101010101",
     "09785a78785b010101087K83c3c3c4b3HG6040322220346010101323a150HafH30JJ2H9NJ0IfJ001220101013102",
     "08210101010101010101010101010101010101010101010101010101010101010101010101010101010101010101",
     "010101010801040NPKd010101010101010101010101010101010101010101010H301010101010101010101010101",
     "0O7010101010101030101010101010101010101010101010101010101010101010101010101010a0101110101010",
     "40102010301010101010101010101414101010101010101310111010101010101010H80LNIbH9KS5I7O8I3Pca1e1",
     "611MUaJ2PdH5RJaHfLLO0HfK0H8MLK7H9HaH9HaH9Ha01120212317HaH9Ha1132716Hb113141036HbH9HaH9HaH9Ha",
     "H9HaH9HaH9HeH8I1H8I1H8I1H8I1H8I10HHJ5I1OGeH96H96H9"]
  | .variationSelector =>
    ["HOGb210ULV0fTGIV0Uf"]
  | .whiteSpace =>
    ["94H20M40Ha0HLTf0PNfaHd150If0VQ00"]
  | .xidContinue =>
    ["J097H9401H9If0a010205H61He1HS94be47010H1N411321064101H31L21Oa142Q51I5206I88Ic101111108Ha43Hd",
     "a5K94M517291H220H0Ja2M4eJ540202IdH2Hb4a5H7167Ka1O0291H217212H51610332821238041142ba010221541",
     "2H516111111201441223073107fb218121H516111429121220f329961217212H51611142821227241142910H0115",
     "321331101131323b4432132060e9H0c121H61f2812137112112329H0317121H619142812137152132912cc121J21",
     "214537429a5121H13H7181026304510176921dJ95e19I7110141H7101H62410161923I00H7169b01010491I34H31",
     "H11I390J9K96Kd2I510502Ia1HKc132610132I8132I0132610132e1J8132K22298efH0L5253IMb2H01H95Ka3a7H5",
     "9H5bH3cc1211cL3304129I121a6L87Ia5K5aHe1b4baI724bIb4H96aI5Hb4Je1Hc2a69d08d1He2bH4Kc39H18cN3cJ",
     "7893J02a5Ia22H021I65IH5252I525271010101He2J41610321633254c5216f1J11H30Hc0d0H0cJ3c403bH104029",
     "10256010101f235440H1I8QN7U468cI510502J770fH796161616161616161HfIG52H9e14244L521221Le5Ia1LdH1",
     "HfJ0fIG0HPRfK0LMOcK3Id2HGc3HbH4If491N2I582M62L1H4J640H3J3cK5a96H7301J02I3cHc3K0ea6He1J69d296",
     "H63K8H822f24a5252596161Ia1d6Na11296IRQ3cH64J0IHG4HMd2M9I66c45b1c141011111MbI1Oa6T9H2Jf2J5I89",
     "6fH0f31H82I1010301010101NdH397H9401H9aL935252522I3b1H91H2111e2dI2NaK5J4O80O2Hc3J0f0HfHfdHd5I",
     "a5Hd2I34714IaPd296I34I34I78J3ca1e16111a1e16113J3cHJ69H5a7H851I918K55201Ib11302H6aH69HeK1H211",
     "aH5aH96H9I6J761K031157121Hc2240I0Hc3HcI371HdH9J5aH5aH2dH1MeK8J7J2dJ2dI7896I5341H6VaI91131H05",
     "J2I2a08I0HfH5IaH4HbH69K6Hff9Jb70dH8796J419438I3209K4431c10I3H11I463Je610131e197Ja596317212H5",
     "1611141921222060562634b910201I51910201317d1HdKa5943HeK51089Q6J528H75I2K030b9I6J8796H3HcHa2e4",
     "966R9JaM5K9H572027111Hd1128c9K672Id2711HbJe808K930H2K8M77L8I0f9681Ic18f9H8Hd2H51dK96111Ib301",
     "1188965111I41115796Ib49V6H69H01I834daL50KfJP9M6MeH1S3QKcM0fKIfH0H5aVPa5IK6HQR9J9MS6IJ87He196",
     "Ke196Hd24bJ693c99H45H2HR0Ic39S6JfI0H82H8IcKa4J87H0K0111b69HST5I9HfM1N2IHVd316111HI2f0Hd220e3",
     "8HObPG4Ma5c387931HGL19IG6Id2H6IHe4358726He3P42HRbL41K6112021231b10161K01327161Hb131410361HL3",
     "2H81H81He1H81He1H81He1H81He1H8172J1IG0J64J180e0H641eKL0He65T561H02611145JdI10N0Ic3d2940HK1He",
     "H1J9HT6I9T6IaS5He1H581U0613111e1S4b6I9Kb49KQ631Ha1110201913101060401010121110201010101011102",
     "316131310191H052141H0TJ49KG6QMTfI0HHHd2HMOd2HTJ0fIMdPQ2IHdLU2HJKa5IHI9QSSO6Uf"]
  | .xidStart =>
    ["K1H96H9If0a0405H61He1HS94be47010O141132106012101H31L21Oa8Q51I5206I8K7Ha43IdIaI311M210f171a22",
     "0H001HdHdL8b0H8I091405H5409030H7H87a5H716H0I9JaJ530H2079ff47212H516103330H00d112e1a085412H51",
     "6111111Hf310H32H08121H516111430H20f1H70b7212H516111430He112f0H1015321331101131323bH60J47121H",
     "61f30Ha21121He047121H6191430He211f1H18121I820H005282H855H13H7181026JaIf10d6Ja110141H7101910a",
     "02410H53I00Jf71I3Hb4N3IaH40H05433031724cc0H1I510502Ia1HKc132610132I8132I0132610132e1J8132K2I",
     "5fH0L5253IMb2H01H95Ka3a7H1dH2eH1ec12fJ3I3040K3L87I8105K5aHeJ1Hd24bIb4H9J6H69J4L20LdIeH17J6Hd",
     "d1aIbHaI3I92aI32a5Ia22I931511305RfK0HH5252I525271010101He2J41610321633254c5216N40d0H0cM50402",
     "910256010101f235440H1I8QN7U46331cI510502J770H0H69616161616161616II62H9874244L5621L9135Ia1LdH",
     "1HfJ0fIG0HPRfK0LMOcK3Id2HGc3fa1H4IeH0He2KfI782M62L1H4H012131H6HdJ3eJ1Je53011bHbaH6H9Hc7IeHc0",
     "H0419a41I8H7217H4H6303J11031242010H822a72c5252596161Ia1d6N2HdIRQ3cH64J0IHG4HMd2M9I66c450191c",
     "141011111MbI1Oa6T9H2Jf2J5I89N7010301010101NdI4H96H9bJ72He35252522I3b1H91H2111e2dI2NaK5J4HGbH",
     "c3J0IfHfdHd5I5aHd2I34714IaPdH2I34I34I78J3ca1e16111a1e16113J3cHJ69H5a7H851I918K55201Ib11302H6",
     "aH69HeK1H211aH5aH96H9I6J761K00f3121HcIaHc3HcI371HbHbJ5aH5aH2dH1MeK8J7J2dJ2dI3I6Hb9H6VaI961H0",
     "5J8Hca08H5IaH1IeH4HbH6cJ4J9120dIcI0H8HaI3Hd0208I230cIfe3H5010I3H11H8H31Jf610131e197IeI67212H",
     "516111430H20c4He910201I510H9010IcJ4H23H42HeIfH4110R8IeI93I4IfH40JbIad0K7HaI56R9IbN4JfHf72027",
     "111H7f010Le72I6H0010Hc0aI770H50bIdH30H2K8S7I0Hf81I4H10J1HdN06111I5H50H95111Hfe0H7IbHG4H2f01c",
     "1I1Nc0KfJP9M6MeH1S3QKcM0fKIfH15H9VPa5IK6HQR9HdMU2IJ87HeH1KeH1HdH2IfH03HfH45H2HR0IcT3JfI0H82H",
     "8IcKa50K2cK0110e49HST5I9HfM1N2IHVd316111HI2f0Hd220e38HObPG4Ma5c3879HNM6L41K6112021231b10161K",
     "01327161Hb131410361HL32H81H81He1H81He1H81He1H81He1H817NJ4He65HG5JdP2Ica6H00HK1HdH2IbHU4HbU4H",
     "d20SfHe1211162491U0613111e1S4JbK370KR431Ha11102019131010604010101211102010101010111023161313",
     "10191H052141H0HHK4QMTfI0HHHd2HMOd2HTJ0fIMdPQ2IHdLU2HJKa5IHI9"]

/-- The characters that have a property. -/
def members (p : Property) : CharSet := .ofTable p.table

end Property

end TaggedStream
