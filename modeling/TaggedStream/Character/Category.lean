import TaggedStream.Character.Set

/-!
General categories of characters.

Every code point is in one category. The surrogates, which are no characters, and the code points
without a character are in none of those that are listed here.
-/

namespace TaggedStream

/-- The general categories that have characters. -/
inductive Category where
  | uppercaseLetter
  | lowercaseLetter
  | titlecaseLetter
  | modifierLetter
  | otherLetter
  | nonspacingMark
  | spacingMark
  | enclosingMark
  | decimalNumber
  | letterNumber
  | otherNumber
  | connectorPunctuation
  | dashPunctuation
  | openPunctuation
  | closePunctuation
  | initialPunctuation
  | finalPunctuation
  | otherPunctuation
  | mathSymbol
  | currencySymbol
  | modifierSymbol
  | otherSymbol
  | spaceSeparator
  | lineSeparator
  | paragraphSeparator
  | control
  | format
  | privateUse
deriving DecidableEq, Repr, Inhabited

namespace Category

/-- All categories. -/
def all : List Category :=
  [.uppercaseLetter, .lowercaseLetter, .titlecaseLetter, .modifierLetter, .otherLetter,
    .nonspacingMark, .spacingMark, .enclosingMark, .decimalNumber, .letterNumber, .otherNumber,
    .connectorPunctuation, .dashPunctuation, .openPunctuation, .closePunctuation,
    .initialPunctuation, .finalPunctuation, .otherPunctuation, .mathSymbol, .currencySymbol,
    .modifierSymbol, .otherSymbol, .spaceSeparator, .lineSeparator, .paragraphSeparator,
    .control, .format, .privateUse]

/-- The names of a category, in lower case and without blanks. -/
def names : Category → List String
  | .uppercaseLetter => ["lu", "uppercaseletter"]
  | .lowercaseLetter => ["ll", "lowercaseletter"]
  | .titlecaseLetter => ["lt", "titlecaseletter"]
  | .modifierLetter => ["lm", "modifierletter"]
  | .otherLetter => ["lo", "otherletter"]
  | .nonspacingMark => ["mn", "nonspacingmark"]
  | .spacingMark => ["mc", "spacingmark"]
  | .enclosingMark => ["me", "enclosingmark"]
  | .decimalNumber => ["nd", "decimalnumber", "digit"]
  | .letterNumber => ["nl", "letternumber"]
  | .otherNumber => ["no", "othernumber"]
  | .connectorPunctuation => ["pc", "connectorpunctuation"]
  | .dashPunctuation => ["pd", "dashpunctuation"]
  | .openPunctuation => ["ps", "openpunctuation"]
  | .closePunctuation => ["pe", "closepunctuation"]
  | .initialPunctuation => ["pi", "initialpunctuation"]
  | .finalPunctuation => ["pf", "finalpunctuation"]
  | .otherPunctuation => ["po", "otherpunctuation"]
  | .mathSymbol => ["sm", "mathsymbol"]
  | .currencySymbol => ["sc", "currencysymbol"]
  | .modifierSymbol => ["sk", "modifiersymbol"]
  | .otherSymbol => ["so", "othersymbol"]
  | .spaceSeparator => ["zs", "spaceseparator"]
  | .lineSeparator => ["zl", "lineseparator"]
  | .paragraphSeparator => ["zp", "paragraphseparator"]
  | .control => ["cc", "control", "cntrl"]
  | .format => ["cf", "format"]
  | .privateUse => ["co", "privateuse"]

/-- The table of the members of a category. -/
def table : Category → List String
  | .uppercaseLetter =>
    ["K1H9M5H616I101010101010101010101010101010101010101010101010101010102010101010101010201010101",
     "01010101010101010101010101010101010101110103110111223111231111010111020111210113070202020101",
     "01010101010201010101010101010202012101010101010101010101010101010101010101010101010101010101",
     "07111201310101010HI10103080601210111H018I30223010101010101010101010105020112J2J0010101010101",
     "01010101010101010101090101010101010101010101010101010101010101010101010101011101010101010201",
     "01010101010101010101010101010101010101010101010101010101010101010101010101010101010101010101",
     "02I5RK9I51050IT2L5OP306Ia22HK001010101010101010101010101010101010101010101010101010101010101",
     "01010101010101010101010101010101010101010101010101010101010101010101010101010101010101090101",
     "01010101010101010101010101010101010101010101010101010101010101010101010101010101010101010101",
     "09785a78785b010101087K83c3c3c4b3HG6040322220346010101323a150Jd0QNcIfJ00122010101310208210101",
     "01010101010101010101010101010101010101010101010101010101010101010101010101010101010101010101",
     "0801040NPKd010101010101010101010101010101010101010101010H3010101010101010101010101010O701010",
     "1010101030101010101010101010101010101010101010101010101010101010101010a010111010101040102010",
     "301010101010101010101414101010101010101310111010101010101010H80LNIbH9KS5I7O8I3Pca1e1611MUaJ2",
     "PdH5RJaHfLLO0HfK0H8MLK7H9HaH9HaH9Ha01120212317HaH9Ha1132716Hb113141036HbH9HaH9HaH9HaH9HaH9Ha",
     "H9HeH8I1H8I1H8I1H8I1H8I10HHJ5I1"]
  | .lowercaseLetter =>
    ["M1H9Ja0I9H7171010101010101010101010101010101010101010101010101010101110101010101010111010101",
     "01010101010101010101010101010101010101020101220102031402032202010102011102030102122602020101",
     "01010101010111010101010101010112010301010101010101010101010101010101010101010101010101010101",
     "016202110401010101K42H9S10103032H20HbI21132101010101010101010101014102021J3If101010101010101",
     "01010101010101010109010101010101010101010101010101010101010101010101010102010101010101110101",
     "0101010101010101010101010101010101010101010101010101010101010101010101010101010101010101010J",
     "0I8RK7Ia22IV85OO2810N5IbJfc1I1M6010101010101010101010101010101010101010101010101010101010101",
     "01010101010101010101010101010101010101010101010101010101010101010101010101010101010101018101",
     "01010101010101010101010101010101010101010101010101010101010101010101010101010101010101010101",
     "01885a78785a7878d2787878411603211832187a211HH203130Hb04040218340J50QQbIf10311010104011155010",
     "10101010101010101010101010101010101010101010101010101010101010101010101010101010101010101010",
     "1011701040cI51050NPH3010101010101010101010101010101010101010101010H3010101010101010101010101",
     "010O7010101010101210101010101010101010101010101010101010101010101010101010101010171010201010",
     "1010401020121010101010101010101050501010101010101040102010101010101010Ha030JJ5Ia587KfKVK06c4",
     "KI9H9KSdI7O8I3Pba1e1611NG3J2NdH5RJaHfLLO0HfJbH8MLK6H9Ha61H1HaH9Ha310161aHaH9HaH9HaH9HaH9HaH9",
     "HaH9HaH9HaH9HaHbHcH815HaH815HaH815HaH815HaH81510NJ491H365PV7I1"]
  | .titlecaseLetter =>
    ["HS502020I60HTP578787c0f0If0"]
  | .modifierLetter =>
    ["IR0H14be47010O5050HTe0U60Q41HGd140Hf09030Q00Q70KT40Nf0IJ50MTa0Mb0IM30HT05QeJed0I2I4IR10d0H0c",
     "RTf1V10Rf0HT50Ib450M11Ld2MVH60KU25HGe0N20Hc1N98L00H70M8331HT50H60O90Mc0H51M7390LKG60Id1NU051",
     "I918LP30I00HL50VH30KTM63HVc2I81II6cK0110e1JVVc31611JGJ1JdS96JQd0IH30IKb0"]
  | .otherLetter =>
    ["Qa0f0HG0043T01JJaHa43IdHf19I311M210H81a220H001HdHdL8b0H8I0H5H5IaH87a5H716H0I8JbJ530H2079H0e4",
     "7212H516103330H00d112e1a085412H516111111Hf310H32H08121H516111430H20f1H70b7212H516111430He112",
     "f0H1015321331101131323bH60J47121H61f30Ha21121He047121H6191430He211f1H18121I820H005282H855H13",
     "H7181026JaIf11c5Jb110141H71019119024H73I00Jf71I3Hb4N3IaH40H05433031724cc0N1HK8132610132I8132",
     "I0132610132e1J8132K2I5fN1IMb2H01H95Ka677H1dH2eH1ec12fJ3I80K3I21J4742I1105K5aHeJ1Hd24bIb4H9J6",
     "H69J4R0IeH17J6Hdd1aIbHaI3I92aHdN13151130KJa3RV7J7H8H69616161616161616II70J504L5801L9405Ia1Ld",
     "H1HfJ0fIG0HPRfK0LIH41KN6K3I78HGb4fa1K20J1K5Q90M703612131H6HdJ3eJ1Je53011bHbaH6H9Hc7IeId428a4",
     "1I8H7217H4f15303J11031242010H813a70e525259616P1I2HdIRQ3cH64J0IHG4HMd2M9K30191c141011111MbI1H",
     "MaH2Jf2J5I8bN441O6M991Ic2He35252522I3b1H91H2111e2dI2NaHO5Hc3J0IfHfdH3176I5aHd2I347O0KdM2I78J",
     "3LcJ3cHJ69H5a7P85201Ib11302H6aH69HeK1H211aH5aH96H9I6J761K00f3121HcIaHc3HcI371HbHbJ5aH5aH2dH1",
     "MeK8R7I3I6310HJ0I961H0211J8Hca08H5IaH1IeH4HbH6cJ4J9120dIcI0H8HaI3Hd0208I230cIfe3H5010I3H11H8",
     "H31Jf610131e197IeI67212H516111430H20c4He910201I510H9010IcJ4H23H42HeIfH4110R8IeI93I4IfH40JbIa",
     "d0K7HaI56R9IbT372027111H7f010Le72I6H0010Hc0aI770H50bIdH30H2K8S7I0Hf81I4H10J1HdN06111I5H50H95",
     "111Hfe0H7I811HG4H2f01c1I1Nc0KfJP9U6S3QKcM0fKIfH15H9VPa5IK6HQR9HdMU2IJ87HeH1KeH1HdH2IfJ3H45H2",
     "HR3I7HP5Ka50QfHST5I9HfM1N2IIGdHI2f0Hd220e38HObPG4Ma5c3879IIN00HV5IcI10HK1HdH2IbHU4HaU5Hd20Sf",
     "He1211162490U1613111e1S4LJb31Ha1110201913101060401010121110201010101011102316131310191H05214",
     "1H0HHK4QMTfI0HHHd2HMOd2HTJ0fIMdPQ2IHdLU2HJKa5IHI9"]
  | .nonspacingMark =>
    ["JG0MfHH34HG9Ic10111110K8aJ0H4H00M56252113I30HeHaLbaJa890H83181214Ib2Jb8IaH71HfJ7010474036a1H",
     "d0Ja04380H41Ha021J9041412230He130b1J90441140H41H6510Ja020138071b1He0Jd0c0J2030J7012521371b1H",
     "d0Ja0206051H41Hc1J914380H41Hd0K807210La026c7M2028b6K91Hb01010J7d14115a1I390M63151121H9142H03",
     "d02160f0IRf2JR22Hd1He1He1K0116802a90Id210N51I20N62419062Tb120Ja0161010276920J0d1He2bH43J0014",
     "1050I88c1I032112J80113012Ja721P821c16406031S6JfIT0c403bRVe2Od0M0HfIIa3Mb1NLT4049I01L01HH0030",
     "40H9150P71HaH1d0I67H9aIe2J002321I70K352121c080If0J3012215110Ia180Ue02040KVJ00IU1fH0fJSd0U20P",
     "54MO621153I8240Q51IJd3K14HJd1Kd5K6aJ13Nb0J6eI9021a2J132170Jd2I4417Je0c1J48a320Lf220116020Pd0",
     "37H51J9130I5634K65d01010e1L572210H70L45104111Ue36111Hb1L572011Ma0102510M50102314HG3811HG0110",
     "40P032140I09I8523809522Iec11S601210S961510L2H5261111Na530111610K813010HLb1b1J445010H70HKU506",
     "eISS8b32PS04Jb6KH80Jf3L10KSR81HIM1Id2H6II02H1726He3P42NRbJ64J180e0H641eLL061H0261114M40Q06HN",
     "70Jd3HVc3Ve1V30207150HTa6Md6SHNR5Uf"]
  | .spacingMark =>
    ["PG30J70228311J21Ja26121a0Ib0Ja2K20Ja28011J51Ja0106121a0M61113212a0I92Jd3Jd1Ja014211191Hc0e1J",
     "a25212a0Ia1Kb267H21HKa1Jf0Qb1406021H91a226H512520a2MN80He0O107711HLa3224115U01Ja010901185P10",
     "J00501411Jd0He04120Jc0221031J0781Qb0H50HJJ61NNV3120L81J2fOe1If0J014122Me121H80Id010Md02150Ud",
     "1111110MKH3010Nf0Id241N30H81Jb0J0291d0Ld23110Qa2Hf1Ja113212290a1L427020131110M528130Ma260132",
     "0Ud26320N128110Md01160M701140HG5290V7511402010Oe28340L40Hd1Je0S903010S70e0Ma07020T544110HLe1",
     "c0J018110KHU82UI4J6M81MHN3165"]
  | .enclosingMark =>
    ["KO81HMJ40MHe312OLOb2"]
  | .decimalNumber =>
    ["J09MI69O69S69HPc9N69N69N69N69N69N69N69N69N69M09N69K69HH69K69NK69I69HIc9O09Q6969R69L69O6969OP",
     "S69IQ69I69S69H69L69HP69LJH69LO69OO6969JHc9O09Jc9P09HH69HL69N69HN69M696H3Kc9HQ69M69IP69L69V69",
     "K69J69HM69KHT69PI69L69O69IH69LVN69QT4J1PK09HQ69HV69V79JL59HIP69"]
  | .letterNumber =>
    ["HMUe2QMfI223UNe0H98e2NMQb9LQL0J4HSc080O64IGIaMeKRO52"]
  | .otherNumber =>
    ["R215022PJ55HN85N82O56T96H18HR19KJ5H3KN39HU00MP503569S6fI90IT6JbKeH5IN6HdLM90KP43Oa9He71eI09I",
     "7eNLN05LOT1IcK13H11HL5HaI43LJ47H96I78Kb4H65Q012f2IdK08J41He2Kb4M87H87I96HKa5HM0HePe9Ia3N06O6",
     "H3HNbH3LK51HQe8JM7H2JL3H4KRO66JHeH6MKI9H3cH3McH8HLKe8JQ1Ja1213KcIc1eJS2c"]
  | .connectorPunctuation =>
    ["Lf0HVTf1H30TTTe1H82Uf0"]
  | .dashPunctuation =>
    ["Id0LLc0J30UK10KG50OG95UG1020Hf140Hc0HRe0H30Mf0STP01I50a0Q90UM00HJe0"]
  | .openPunctuation =>
    ["I80J20Hf0URe010NLe0PNe030I60J70f0INa010He0KJe0101010101010L00I0010101010HP401010101010101010",
     "1010K0010I10KI50101010H90H20101010HQc0101010103010101020STI10T70Hd01010101010101030H101010Qa",
     "0J20Hf03020"]
  | .closePunctuation =>
    ["I90J30Hf0URd010NLe0PQ90J70f0INa010He0KJe0101010101010L00I0010101010HP4010101010101010101010K",
     "0010I10KI50101010Ic0101010HQc0101010103010101021STHe0T90Hd01010101010101030H101010Qa0J30Hf02",
     "020"]
  | .initialPunctuation =>
    ["Qb0HVMc02120H90TS80104020f030"]
  | .finalPunctuation =>
    ["Rb0HVLd030Hc0TS80104020f030"]
  | .otherPunctuation =>
    ["I1212201011a131Hb0K4050e170IRe080HT25I90J602020Ic1H4111d012Ka3M60IbdU92J6eHf0HG51a0Oc0N80N90",
     "HO60c0HMf0La0a1Q8e10N00Ka441Mf5Qb0IM48JG50Nc2K71Pd212I5513HJ91T81O0615Q01a6Hc2Nc3Jb4Je1K07b0",
     "JK21878823223a1019SPa311N00Of1422028111021a41923101c22HQc2J90Rd0NKG21HGd2M30a0N35HNc3L61I821",
     "0J11If0M1cH01Nc3Ne1H01V90LII4620H60H41233213726011P5212201011a131Hb0I4021HPa2IPc0J00HPe0IU70",
     "S70Hf0HH08I60N06K26L93JJ30O44Ic3Rd6Md113Ne3J01Kf340d012L85Mb0HIa111N24a110M80VaH6M92HccKc0O2",
     "2Vc0HG82Pb0Lc7L3214Ld9T70Lf4Ia1IO51KacQf0KN04RNc1JQNb1O50K1480II82HI73HK70KSRc0HTU74RN30JLe1"]
  | .mathSymbol =>
    ["Ib0H02Jd010Id040I50Hf0IVe0IGf2HQJb0d0I72d2Ob0I7460K445140202070Hf12010HfHGbI01La0HeH8I85HT50",
     "90J67Mf0HL042HeafHG0O2H6Je4Hf2HG1J0H425SVTc0JJ8012Q40H02Jd010O3063TQ11SHM00NT00H90Hf0H90Hf0H",
     "90Hf0H90Hf0H90HNIc1PTe8"]
  | .currencySymbol =>
    ["I40Nd3KU90Nb0HV21HV2170V50HG70IK50PPb0OS4I1ONN60LLS30Mc0Pa0Tb131HVV63SJHe0PR00"]
  | .modifierSymbol =>
    ["Le010K70604030IG93cd56101H0N50e1LG20HNJ4012b2d2d2d1HGPc1NMM3H691M71JT00e1LGK6H0JNb010Q20VKH7",
     "4"]
  | .otherSymbol =>
    ["Q60204010JT10HGa1Nf1Se0a0H31V70IG30HN50O2510O40Sf0I90HO72f01225H401010O57151153S51IV09IT30IT",
     "20PdI1HM1998LO311311a0116510101040b1e01110Ja194231111161He21101HeHGc74H3262L01HdH9I76K7H6aL1",
     "KdH6R6181J58Me1V7IcIbK0VfIG0IfH516I62O9U55HM51IeH91L8cT5Haf40d1c0H5161HL0149I0I590H0HebHd80f",
     "HfaI6fHJfHPS0JfLMP0J6JM13a110IJd2LHK9fHMdfK01J67Id2HU403041d1HJ98J9H0221c30IfIcMNa1IKf0KG87O",
     "M60OP574H0KRKa350LHL60VM3Ufa23HR36H6ffM0N3JcV5aI62Jb52H617Hd4JcH5K130RaL6KQ9HVfJ73J271d11MS8",
     "0RLc0O10IT1Ib4M3ce2e1e1I4H7Q0J8HcdIb4871e5PaVa5IT83H03c3T96b40fb4J7896I78Hd2b41JeHL78d2c3a3J",
     "8104f2b497P21Lba0"]
  | .spaceSeparator =>
    ["I00Nf0HLTf0PNfaI40If0VQ00"]
  | .lineSeparator =>
    ["IGI80"]
  | .paragraphSeparator =>
    ["IGI90"]
  | .control =>
    ["0HfLfI0"]
  | .format =>
    ["Qd0LL25H60S00J10HO01L00VIb0NVc4Ha4J1419TUOf0V92HGS10f0IJM2fOOM03HKSf7SIUO60HeLf"]
  | .privateUse =>
    ["UGG0HOVfUGNG0VVVd2VVVd"]

/-- The members of a category. -/
def members (category : Category) : CharSet := .ofTable category.table

/-- The members of several categories. -/
def membersOf (categories : List Category) : CharSet := .unions (categories.map members)

/-- The categories of letters, with those of cased letters in front. -/
def letters : List Category :=
  [.uppercaseLetter, .lowercaseLetter, .titlecaseLetter, .modifierLetter, .otherLetter]

/-- The categories of marks. -/
def marks : List Category := [.nonspacingMark, .spacingMark, .enclosingMark]

/-- The categories of numbers. -/
def numbers : List Category := [.decimalNumber, .letterNumber, .otherNumber]

/-- The categories of punctuation. -/
def punctuation : List Category :=
  [.connectorPunctuation, .dashPunctuation, .openPunctuation, .closePunctuation,
    .initialPunctuation, .finalPunctuation, .otherPunctuation]

/-- The categories of symbols. -/
def symbols : List Category := [.mathSymbol, .currencySymbol, .modifierSymbol, .otherSymbol]

/-- The categories of separators. -/
def separators : List Category := [.spaceSeparator, .lineSeparator, .paragraphSeparator]

/-- The code points of all categories. -/
def assigned : CharSet := membersOf all

end Category

end TaggedStream
