import TaggedStream.Character.Set

/-!
Kinds of characters for finding the boundaries of user-perceived characters, words and sentences.
-/

namespace TaggedStream

/-- A kind of characters at a boundary. -/
structure BreakKind where
  /-- Its names, in lower case and without blanks. -/
  names : List String
  /-- The table of its characters. -/
  table : List String

namespace BreakKind

/-- The characters of a kind. -/
def members (kind : BreakKind) : CharSet := .ofTable kind.table

/-- The kinds for the boundaries of user-perceived characters. -/
def graphemeCluster : List BreakKind :=
  [⟨["cn", "control"],
      ["09111H1LfI0d0LMe0HHV10NVc021H86J1fTUOf0V0bJKJ4fOOM03HKSf7SIUO5HfM0NfV0UGf"]⟩,
    ⟨["cr"],
      ["d0"]⟩,
    ⟨["ex", "extend"],
      ["JG0MfHH36HG7Ic10111110K8aJ0H4H00M56252113I30HeHaLbaJa890H83181214Ib2Jb8IaH71HfJ7010474036a",
       "1Hd0Ja010238090a1Ha021J9041412230He130b1J90441140H41H6510Ja011138072a1He0Jb010c090I8030J70",
       "12521371b1Hd0Ja02110321371b1Hc1J9110238090a1Hd0K8040221080L1026c7M2028b6K91Hb01010J7d14115",
       "a1I390M63151121H9142H03d02160f0IRf2JR23Hc2Hd1He1K0116802a90Id210N51I20N62419062Tb120Ja0161",
       "010276920J0HeJ13J0942I68c1I0325J80113014J8721P821c16406031S6JfIGc0S3I0RVe2Od0M0HfIIa5M91NL",
       "T4319I01L01HH003040H9150P71HaH1d0I67H9a10Ic2J00232120I40K352121c080If0J3012215110Ia180Ue02",
       "040KVJ00IU1fH0fHMe1ILd0U20P54MO621153I8240Q51IJd3K14HJd1Kf3K6aJ13Nb0J6eI9021a2J132170Jd2I4",
       "417Je0c1J48108320Lf2236020Pd037H51J911010c090e634K30251020124210e1L572210H70L102510201111U",
       "b0236111Hb1L572011Ma01027M522314HG3811V50a340P032140I09I8523809522Iec11HP661510L2H5261111N",
       "a530111610K813010HLb1b1J4452H70HKU506eISS8b32PS04Jb6KH80Jf3L10b1KSQb1HIM1Id2H6IHe4358726He",
       "3P42NRbJ64J180e0H641eLL061H0261114M40Q06HN70Jd3HVc3Ve1IU06Md6QR04SGSI0LfO0Uf"]⟩,
    ⟨["l"],
      ["HHG0LfPOG0Hc"]⟩,
    ⟨["lf"],
      ["a0"]⟩,
    ⟨["lv"],
      ["QSG00Hb0Hb0Hb0Hb0Hb0Hb0Hb0Hb0Hb0Hb0Hb0Hb0Hb0Hb0Hb0Hb0Hb0Hb0Hb0Hb0Hb0Hb0Hb0Hb0Hb0Hb0Hb0Hb0H",
       "b0Hb0Hb0Hb0Hb0Hb0Hb0Hb0Hb0Hb0Hb0Hb0Hb0Hb0Hb0Hb0Hb0Hb0Hb0Hb0Hb0Hb0Hb0Hb0Hb0Hb0Hb0Hb0Hb0Hb0H",
       "b0Hb0Hb0Hb0Hb0Hb0Hb0Hb0Hb0Hb0Hb0Hb0Hb0Hb0Hb0Hb0Hb0Hb0Hb0Hb0Hb0Hb0Hb0Hb0Hb0Hb0Hb0Hb0Hb0Hb0H",
       "b0Hb0Hb0Hb0Hb0Hb0Hb0Hb0Hb0Hb0Hb0Hb0Hb0Hb0Hb0Hb0Hb0Hb0Hb0Hb0Hb0Hb0Hb0Hb0Hb0Hb0Hb0Hb0Hb0Hb0H",
       "b0Hb0Hb0Hb0Hb0Hb0Hb0Hb0Hb0Hb0Hb0Hb0Hb0Hb0Hb0Hb0Hb0Hb0Hb0Hb0Hb0Hb0Hb0Hb0Hb0Hb0Hb0Hb0Hb0Hb0H",
       "b0Hb0Hb0Hb0Hb0Hb0Hb0Hb0Hb0Hb0Hb0Hb0Hb0Hb0Hb0Hb0Hb0Hb0Hb0Hb0Hb0Hb0Hb0Hb0Hb0Hb0Hb0Hb0Hb0Hb0H",
       "b0Hb0Hb0Hb0Hb0Hb0Hb0Hb0Hb0Hb0Hb0Hb0Hb0Hb0Hb0Hb0Hb0Hb0Hb0Hb0Hb0Hb0Hb0Hb0Hb0Hb0Hb0Hb0Hb0Hb0H",
       "b0Hb0Hb0Hb0Hb0Hb0Hb0Hb0Hb0Hb0Hb0Hb0Hb0Hb0Hb0Hb0Hb0Hb0Hb0Hb0Hb0Hb0Hb0Hb0Hb0Hb0Hb0Hb0Hb0Hb0H",
       "b0Hb0Hb0Hb0Hb0Hb0Hb0Hb0Hb0Hb0Hb0Hb0Hb0Hb0Hb0Hb0Hb0Hb0Hb0Hb0Hb0Hb0Hb0Hb0Hb0Hb0Hb0Hb0Hb0Hb0H",
       "b0Hb0Hb0Hb0Hb0Hb0Hb0Hb0Hb0Hb0Hb0Hb0Hb0Hb0Hb0Hb0Hb0Hb0Hb0Hb0Hb0Hb0Hb0Hb0Hb0Hb0Hb0Hb0Hb0Hb0H",
       "b0Hb0Hb0Hb0Hb0Hb0Hb0Hb0Hb0Hb0Hb0Hb0Hb0Hb0Hb0Hb0Hb0Hb0Hb0Hb0Hb0Hb0Hb0Hb0Hb0Hb0Hb0Hb0Hb0Hb0H",
       "b0Hb0Hb0Hb0Hb0Hb0Hb0Hb0Hb0Hb0Hb0Hb0Hb0Hb0Hb0Hb0Hb0Hb0Hb0Hb0Hb0Hb0Hb0Hb0Hb0Hb0Hb0Hb0Hb0Hb0H",
       "b0Hb0Hb0Hb0Hb0Hb0Hb0Hb0Hb0Hb0Hb0Hb0Hb0Hb0Hb0Hb0Hb0Hb0Hb0Hb0Hb0Hb0Hb0Hb0Hb0Hb0Hb0Hb0Hb0Hb0H",
       "b0Hb0Hb0Hb0Hb0Hb0Hb0Hb0Hb0Hb0"]⟩,
    ⟨["lvt"],
      ["QSG1Ha1Ha1Ha1Ha1Ha1Ha1Ha1Ha1Ha1Ha1Ha1Ha1Ha1Ha1Ha1Ha1Ha1Ha1Ha1Ha1Ha1Ha1Ha1Ha1Ha1Ha1Ha1Ha1Ha",
       "1Ha1Ha1Ha1Ha1Ha1Ha1Ha1Ha1Ha1Ha1Ha1Ha1Ha1Ha1Ha1Ha1Ha1Ha1Ha1Ha1Ha1Ha1Ha1Ha1Ha1Ha1Ha1Ha1Ha1Ha",
       "1Ha1Ha1Ha1Ha1Ha1Ha1Ha1Ha1Ha1Ha1Ha1Ha1Ha1Ha1Ha1Ha1Ha1Ha1Ha1Ha1Ha1Ha1Ha1Ha1Ha1Ha1Ha1Ha1Ha1Ha",
       "1Ha1Ha1Ha1Ha1Ha1Ha1Ha1Ha1Ha1Ha1Ha1Ha1Ha1Ha1Ha1Ha1Ha1Ha1Ha1Ha1Ha1Ha1Ha1Ha1Ha1Ha1Ha1Ha1Ha1Ha",
       "1Ha1Ha1Ha1Ha1Ha1Ha1Ha1Ha1Ha1Ha1Ha1Ha1Ha1Ha1Ha1Ha1Ha1Ha1Ha1Ha1Ha1Ha1Ha1Ha1Ha1Ha1Ha1Ha1Ha1Ha",
       "1Ha1Ha1Ha1Ha1Ha1Ha1Ha1Ha1Ha1Ha1Ha1Ha1Ha1Ha1Ha1Ha1Ha1Ha1Ha1Ha1Ha1Ha1Ha1Ha1Ha1Ha1Ha1Ha1Ha1Ha",
       "1Ha1Ha1Ha1Ha1Ha1Ha1Ha1Ha1Ha1Ha1Ha1Ha1Ha1Ha1Ha1Ha1Ha1Ha1Ha1Ha1Ha1Ha1Ha1Ha1Ha1Ha1Ha1Ha1Ha1Ha",
       "1Ha1Ha1Ha1Ha1Ha1Ha1Ha1Ha1Ha1Ha1Ha1Ha1Ha1Ha1Ha1Ha1Ha1Ha1Ha1Ha1Ha1Ha1Ha1Ha1Ha1Ha1Ha1Ha1Ha1Ha",
       "1Ha1Ha1Ha1Ha1Ha1Ha1Ha1Ha1Ha1Ha1Ha1Ha1Ha1Ha1Ha1Ha1Ha1Ha1Ha1Ha1Ha1Ha1Ha1Ha1Ha1Ha1Ha1Ha1Ha1Ha",
       "1Ha1Ha1Ha1Ha1Ha1Ha1Ha1Ha1Ha1Ha1Ha1Ha1Ha1Ha1Ha1Ha1Ha1Ha1Ha1Ha1Ha1Ha1Ha1Ha1Ha1Ha1Ha1Ha1Ha1Ha",
       "1Ha1Ha1Ha1Ha1Ha1Ha1Ha1Ha1Ha1Ha1Ha1Ha1Ha1Ha1Ha1Ha1Ha1Ha1Ha1Ha1Ha1Ha1Ha1Ha1Ha1Ha1Ha1Ha1Ha1Ha",
       "1Ha1Ha1Ha1Ha1Ha1Ha1Ha1Ha1Ha1Ha1Ha1Ha1Ha1Ha1Ha1Ha1Ha1Ha1Ha1Ha1Ha1Ha1Ha1Ha1Ha1Ha1Ha1Ha1Ha1Ha",
       "1Ha1Ha1Ha1Ha1Ha1Ha1Ha1Ha1Ha1Ha1Ha1Ha1Ha1Ha1Ha1Ha1Ha1Ha1Ha1Ha1Ha1Ha1Ha1Ha1Ha1Ha1Ha1Ha1Ha1Ha",
       "1Ha1Ha1Ha1Ha1Ha1Ha1Ha1Ha1Ha1Ha"]⟩,
    ⟨["pp", "prepend"],
      ["MG05T70J10HO01L00KMb0HGJMe0f0V41IGd0LMd010V80K95IRc0HRb0"]⟩,
    ⟨["ri", "regionalindicator"],
      ["HVHU6H9"]⟩,
    ⟨["sm", "spacingmark"],
      ["PG30J70228311J21Jb16121J60Ja2K20Ja28011J51Jc06121N20113212J42Jd3Jd1Ja02011Ie0e1Jb15212J51K",
       "c166H31Jf0Nf0Oa1Jf0R1091H91Ic0NJ107711HLa3224115U01Ja010H55P10J93K00He041Jf02210J5781Qb0H5",
       "0ORIb120L81J2fOe0J00J014121Mf121H80Pd02150Ud1111110MKH3010Nf0Id241N30H81Jb0J0290e0Ld231Qc2",
       "Hf1Jb0132121H51L51f011M728130Mb160111020Ue16320N128110Md011N60HG5290V84117010Oe28340L40Hd1",
       "Je0HP70e0Ma07020T544110HLe1c0J0181KHUa2UI4J6"]⟩,
    ⟨["t"],
      ["HHQ8L7SLSbJ0"]⟩,
    ⟨["v"],
      ["HHM0K7SMG8H6PLPc033"]⟩,
    ⟨["zwj"],
      ["IGGd0"]⟩]

/-- The kinds for the boundaries of words. -/
def word : List BreakKind :=
  [⟨["le", "aletter"],
      ["K1H96H9If0a0405H61He1HTf6I1N041123106012101H31L21Oa8Q51I523101I810M80IcIaI311M210f171a220H",
       "001HdHdL8b0H8I091405H5409030H7H87a5H715H1I9JaJ530H2079ff47212H516103330H00d112e1a085412H51",
       "6111111Hf310H32H08121H516111430H20f1H70b7212H516111430He112f0H1015321331101131323bH60J4712",
       "1H61f30Ha22021He047121H6191430Hf111f1H18121I820H005282H855H13H7181026HJ90Jf71I3Hb4HH3I5105",
       "02Ia1HKc132610132I8132I0132610132e1J8132K2I5fH0L5253IMb2H01H95Ka3a7H1dH2eH1ec12QfL8742I110",
       "5K5aHeU1H6UeIeH17J6Hdd1aIbHaI3I92aI32a5Ia22I931511305RfK0HH5252I525271010101He2J4161032163",
       "3254c5216N40d0H0cM5040291034601010131a235440H1I8JIdJ3NH6U46331cI510502J770H0H6961616161616",
       "1616L00HT50J51S8Ia1LdH1HfMUK0KOcK3Id2HGc3fa1H4IeH0He2KfH8S5211017H5f12131H6HdJ3eJ1Je53011b",
       "HbaH6H9Hc7IeHc0J0I8H7217P4a72c5252596161J96N2HdIRQ3cH64J0IJG46c4J8M1I1HMaH2Jf2J5I8bN441O6I",
       "4H96H9K5He35252522I3b1H91H2111e2dI2NaK5J4HGbHc3J0IfHfdHd5I5aHd2I34714IaPdH2I34I34I78J3ca1e",
       "16111a1e16113J3cHJ69H5a7H851I918K55201Ib11302H6aH69HeK1H211aH5aH9K6J761K00f3121HcIaHc3HcI3",
       "71HbHbJ5aH5aH2dH1MeK8J7J2dJ2dI3I6Hb9H6VaI961H02JbHca08H5IaH1IeH4HbH6cJ4J9120dIcI0H8HaI3Hd0",
       "208I230cIfe3H5010I3H11H8H31Jf610131e197IeI67212H516111430H20c4He910201I510H9010IcJ4H23H42H",
       "eIfH4110R8IeI93I4IfH40JbIad0HK7IbN4JfHf72027111H7f010Le72I6H0010Hc0aI770H50bIdH30H2K8S7I0H",
       "f81I4H10J1HdN06111I5H50H95111Hfe0HK7H2f01c1I1Nc0KfJP9M6MeH1S3QKcM0fKIfH15H9VPa5IK6HQR9HdMU",
       "2IJ87HeH1KeH1HdH2IfH03HfH45H2HR0IcT3JfO0Ka50K2cK0110KSHcMa5c3879HNM6L41K6112021231b10161K0",
       "1327161Hb131410361HL32H81H81He1H81He1H81He1H81He1H817NJ4He65HG5JdP2Ica6H00HK1HdH2IbHU4HbU4",
       "Hd20HUf613111e1S4JbK370KR431Ha1110201913101060401010121110201010101011102316131310191H0521",
       "41H0IN4H96H96H9"]⟩,
    ⟨["cr"],
      ["d0"]⟩,
    ⟨["dq", "doublequote"],
      ["I20"]⟩,
    ⟨["extend"],
      ["JG0MfHH36HG7Ic10111110K8aJ0H4H00M56252113I30HeHaLbaJa890H83181214Ib2Jb8IaH71I0J621H116a1Hd",
       "2J8016212290a1Ha022J8014412230He130b2J80171212H41H6512J8016212272a1He0Jb4321390I84J7016121",
       "371b1Hd2J8016121371b1f0c3J7116121390a1Hd2K60451017H21Jd026c7M2028b6K91Hb0101041J1H3115a1I3",
       "90M4H3H7342122633db10a3IRf2JR23Hc2Hd1He1K0Hf90Id210N51I20N6b4bTb4J991Hc20J0HeJ14IfH0I68c2H",
       "ecJ8dJ0H3P821H4406022S6JfIGc0S3I0RVe2Od0M0HfIIa5M91NLT4319I01L01HH003040H7440L31J2H1HaH1d0",
       "I67H9cIc3IfdI40K3dc081Id2J2012215110I9451Uc711KVJ00IU1fH0fHMe1ILd0U20P54MO621153I8240Q51IJ",
       "d3K14HJd1Kf3K6aJ13Na2J5eI9021a3Ida70Jd2I4dH01Ic0c2J0d8311Lcb6020PdbH53J7116212290a12634K38",
       "1020131410e1L2H1H70L1H3Ub628Hb1L2H0MacM5eHG0eV5511231011Od62630Hc9I8613809aIefHP5717L2H51d",
       "Na530111610K241114HLb39110J0634H70HKU506eISS8H1PS04Jb6KH801J673L10b1KSQb1HIM1Id2H6IHe43587",
       "26He3P42NRbJ64J180e0H641eLL061H0261114M40Q06HN70Jd3HVc3Ve1IU06Md6QR04SGSI0LfO0Uf"]⟩,
    ⟨["ex", "extendnumlet"],
      ["Lf0HVSf0f1H30TTTe1H82Uf0"]⟩,
    ⟨["fo", "format"],
      ["Qd0LL25H60S00J10HO01L00VIb0NVf1Ha4J1419TUOf0V92HGS10f0IJM2fOOM03HKSf7SIUO60"]⟩,
    ⟨["hl", "hebrewletter"],
      ["LT0Ha43VLIa0191c1410111119"]⟩,
    ⟨["ka", "katakana"],
      ["JGJ14M513La13V0fT0Ie1L7SSGeJ7RGL23161110HHf2J20e3"]⟩,
    ⟨["lf"],
      ["a0"]⟩,
    ⟨["ml", "midletter"],
      ["Ja0Nc0ISf0HT70P40HQJ20TTUb0K10S40"]⟩,
    ⟨["mn", "midnum"],
      ["Ic0e0JK20IGa0O21Le0HOb0HOKb0TTSb030Jb030R70e0"]⟩,
    ⟨["mb", "midnumlet"],
      ["Ie0HVU91a0TUId0R4060"]⟩,
    ⟨["nl", "newline"],
      ["b1N80HVQ21"]⟩,
    ⟨["nu", "numeric"],
      ["J09MI6910O49S69HPc9N69N69N69N69N69N69N69N69N69M09N69K69HH69K69NK69I69HIc9O09Q6969R69L69O69",
       "69OPS69IQ69I69S69H69L69HP69LJH69LO69OO6969JHc9O09Jc9P09HH69HL69N69HN69M696H3Kc9HQ69M69IP69",
       "L69V69K69HQ69KHT69PI69L69O69IH69LVN69QT4J1PK09HQ69HV69V79JL59HIP69"]⟩,
    ⟨["ri", "regionalindicator"],
      ["HVHU6H9"]⟩,
    ⟨["sq", "singlequote"],
      ["I70"]⟩,
    ⟨["wsegspace"],
      ["I00HMLf0PNf612L40VQ00"]⟩,
    ⟨["zwj"],
      ["IGGd0"]⟩]

/-- The kinds for the boundaries of sentences. -/
def sentence : List BreakKind :=
  [⟨["at", "aterm"],
      ["Ie0HVV50TUId0Rb0"]⟩,
    ⟨["cl", "close"],
      ["I2042J1010Hd010Id0f0UNe3NLd1PNb7H91a1J61e1IN93Hd1KJ057dKf1Hf9HP3H5Jf3I01KG2de129H80H27HQb9",
       "2712STHe1T71Hcf21H05Q91J1010Hd0101111VNH22"]⟩,
    ⟨["cr"],
      ["d0"]⟩,
    ⟨["ex", "extend"],
      ["JG0MfHH36HG7Ic10111110K8aJ0H4H00M56252113I30HeHaLbaJa890H83181214Ib2Jb8IaH71I0J621H116a1Hd",
       "2J8016212290a1Ha022J8014412230He130b2J80171212H41H6512J8016212272a1He0Jb4321390I84J7016121",
       "371b1Hd2J8016121371b1f0c3J7116121390a1Hd2K60451017H21Jd026c7M2028b6K91Hb0101041J1H3115a1I3",
       "90M4H3H7342122633db10a3IRf2JR23Hc2Hd1He1K0Hf90Id210N51I20N6b4bTb4J991Hc20J0HeJ14IfH0I68c2H",
       "ecJ8dJ0H3P821H4406022S6JfIGc1S2I0RVe2Od0M0HfIIa5M91NLT4319I01L01HH003040H7440L31J2H1HaH1d0",
       "I67H9cIc3IfdI40K3dc081Id2J2012215110I9451Uc711KVJ00IU1fH0fHMe1ILd0U20P54MO621153I8240Q51IJ",
       "d3K14HJd1Kf3K6aJ13Na2J5eI9021a3Ida70Jd2I4dH01Ic0c2J0d8311Lcb6020PdbH53J7116212290a12634K38",
       "1020131410e1L2H1H70L1H3Ub628Hb1L2H0MacM5eHG0eV5511231011Od62630Hc9I8613809aIefHP5717L2H51d",
       "Na530111610K241114HLb39110J0634H70HKU506eISS8H1PS04Jb6KH801J673L10b1KSQb1HIM1Id2H6IHe43587",
       "26He3P42NRbJ64J180e0H641eLL061H0261114M40Q06HN70Jd3HVc3Ve1IU06Md6SHMT5LfO0Uf"]⟩,
    ⟨["fo", "format"],
      ["Qd0LL25H60S00J10HO01L00VIb0NVc021Ha4J1419TUOf0V92HGS10f0IJM2fOOM03HKSf7SIUO60"]⟩,
    ⟨["lf"],
      ["a0"]⟩,
    ⟨["lo", "lower"],
      ["M1H9If0a040I4H7171010101010101010101010101010101010101010101010101010101110101010101010111",
       "010101010101010101010101010101010101010101010201012201020314020322020101020111020301021226",
       "020201010101010101011101010101010101011201030101010101010101010101010101010101010101010101",
       "0101010101016202110401010101K41I371He4Oc0103023H20HbI21132101010101010101010101014102021J3",
       "If1010101010101010101010101010101010901010101010101010101010101010101010101010101010101010",
       "201010101010111010101010101010101010101010101010101010101010101010101010101010101010101010",
       "10101010101010101010J0I8RN30IVb5OO2810N5RfK10101010101010101010101010101010101010101010101",
       "010101010101010101010101010101010101010101010101010101010101010101010101010101010101010101",
       "010101010101810101010101010101010101010101010101010101010101010101010101010101010101010101",
       "01010101010101010101885a78785a7878d2787878411603211832187a211N90d0H0cMd03130Hb04040218340I",
       "1f40JKbH9NK6If1031101010401117301010101010101010101010101010101010101010101010101010101010",
       "1010101010101010101010101010101010101011701040cI51050NPH3010101010101010101010101010101010",
       "101010101010H3010101010101010101010101012O501010101010121010101010101010101010101010101010",
       "101010101010101010101010101910102010101010401020121010101010101010101050501010101010101040",
       "1020301010101010H621012JJ5Ia1d6KfKVK06c4KI9H9KSdI7O8I3Pba1e1611HS30221I918LG5J2NdH5RJaHfLL",
       "O0HfMLPaH9Ha61H1HaH9Ha310161aHaH9HaH9HaH9HaH9HaH9HaH9HaH9HaH9HaHbHcH815HaH815HaH815HaH815H",
       "aH81510NJ491H365HG5JdOR4I1"]⟩,
    ⟨["nu", "numeric"],
      ["J09MI6911O39S69HPc9N69N69N69N69N69N69N69N69N69M09N69K69HH69K69NK69I69HIc9O09Q6969R69L69O69",
       "69OPS69IQ69I69S69H69L69HP69LJH69LO69OO6969JHc9O09Jc9P09HH69HL69N69HN69M696H3Kc9HQ69M69IP69",
       "L69V69K69HQ69KHT69PI69L69O69IH69LVN69QT4J1PK09HQ69HV69V79JL59HIP69"]⟩,
    ⟨["le", "oletter"],
      ["HRb043T00I466bHa010O50HU40N6Ha44IcIaI311M210f171a220H001HdHdL8b0H8I091405H5409030H7H87a5H7",
       "15H1I9JaJ530H2079ff47212H516103330H00d112e1a085412H516111111Hf310H32H08121H516111430H20f1H",
       "70b7212H516111430He112f0H1015321331101131323bH60J47121H61f30Ha22021He047121H6191430Hf111f1",
       "H18121I820H005282H855H13H7181026JaIf11c6Ja110141H7101911902410H53I00Jf71I3Hb4N3IaH40H05433",
       "031724cc0K1Ia2HKb132610132I8132I0132610132e1J8132K2I5fN1IMb2H01H95Ka3a7H1dH2eH1ec12fJ3I304",
       "0K3L8742I1105K5aHeJ1Hd24bIb4H9J6H69J4L20LdIeH17J6Hdd1aIbHaI3I92aI3H2Ia22I93151130KJa3K7223",
       "RQ7J770H0H69616161616161616L00HT52H9874244L5621L9135Ia1LdH1HfJ0fIG0HPRfK0LMOcK3Id2HGc3fa1K",
       "20H00I0KfI78M8060M703612131H6HdJ3eJ1Je53011bHbaH6H9Hc7IeHc0H0419a41I8H7217H4H6303J11031242",
       "010H822a72c525259616P1I2HdIRQ3cH64J0IHG4HMd2M9K30191c141011111MbI1HMaH2Jf2J5I8bN441O6M9J72",
       "He35252522I3b1H91H2111e2dI2NaK5J4HGbHc3J0IfHfdHd5I5aHd2I34714NaKdM2I78J3LcJ3cHJ69H5a7H91Nd",
       "5201Ib11302H6aH69HeK1H211aH5aH9K6J761K00f3121HcIaHc3HcI371HbHbJ5aH5aH2dH1MeK8R7I3I65Hf0HH0",
       "I961H02JbHca08H5IaH1IeH4HbH6cJ4J9120dIcI0H8HaI3Hd0208I230cIfe3H5010I3H11H8H31Jf610131e197I",
       "eI67212H516111430H20c4He910201I510H9010IcJ4H23H42HeIfH4110R8IeI93I4IfH40JbIad0K7HaI56R9IbT",
       "372027111H7f010Le72I6H0010Hc0aI770H50bIdH30H2K8S7I0Hf81I4H10J1HdN06111I5H50H95111Hfe0HK7H2",
       "f01c1I1Nc0KfJP9M6MeH1S3QKcM0fKIfH15H9VPa5IK6HQR9HdMU2IJ87HeH1KeH1HdH2IfH03HfH45H2HR0IcHP3K",
       "a50K2cK0110HcHNV78KT5I99IIU7316111HI2f0Hd220e38HObPG4Ma5c3879IIN00HV5Ica6H00HK1HdH2IbHU4Hb",
       "U4Hd20HUf613111e1S4O60KR431Ha1110201913101060401010121110201010101011102316131310191H05214",
       "1H0HHK4QMTfI0HGJ96Td2HMO1eHTJ0fIMdPQ2IHdLU2HJKa5HGLf"]⟩,
    ⟨["sc", "scontinue"],
      ["Ic1c0LI20Qe1HUa0HGG9050OGa1VUc0SUGe110Hd1Hd13020a0Q81c0K90"]⟩,
    ⟨["se", "sep"],
      ["O50HVQ21"]⟩,
    ⟨["sp"],
      ["9011H30Nf0HLTf0PNfaI40If0VQ00"]⟩,
    ⟨["st", "sterm"],
      ["I10Hd0LK90P32R40Ib2V60Jd01031HI51MU41JH6041JG50S61Sc050HJa1HM23Q21a121Hd2Rb1K11JRc192TU40d",
       "0H61HQd0NKVc0HGe1U3030HNe1L61Lf0P81P32P01V90LIMa1Q90Hd0K10QV41KVd4Ic3Rd1N53Nf2O1160H01L811",
       "1Mc0HIa1N51HN515eM91V92IG5010Vb1L71HQ41IR41Ka1KRI91O50K11b0II91HI80KUG60HTU80"]⟩,
    ⟨["up", "upper"],
      ["K1H9M5H616I1010101010101010101010101010101010101010101010101010101020101010101010102010101",
       "010101010101010101010101010101010101010111010311011122311123111101011102011121011307111111",
       "010101010101010201010101010101010211012101010101010101010101010101010101010101010101010101",
       "01010107111201310101010HI10103080601210111H018I30223010101010101010101010105020112J2J00101",
       "010101010101010101010101010109010101010101010101010101010101010101010101010101010101110101",
       "010101020101010101010101010101010101010101010101010101010101010101010101010101010101010101",
       "01010101010102I5RK9I51050IT2L5OP30HN601010101010101010101010101010101010101010101010101010",
       "101010101010101010101010101010101010101010101010101010101010101010101010101010101010101010",
       "101010901010101010101010101010101010101010101010101010101010101010101010101010101010101010",
       "101010101010109785a78785b010101087H87878784b4b3c4b4HG5040322220346010101323a150HafH30JJ2H9",
       "NJ0IfJ001220101013102082101010101010101010101010101010101010101010101010101010101010101010",
       "10101010101010101010101010101010801040NPKd010101010101010101010101010101010101010101010H30",
       "10101010101010101010101010O701010101010103010101010101010101010101010101010101010101010101",
       "0101010101010a010111010101040102010301010101010101010101414101010101010101310113050101010H",
       "80LNIbH9KS5I7O8I3Pca1e1611MUaJ2PdH5RJaHfLLO0HfMLQ0H9HaH9HaH9Ha01120212317HaH9Ha1132716Hb11",
       "3141036HbH9HaH9HaH9HaH9HaH9HaH9HeH8I1H8I1H8I1H8I1H8I10HHJ5I1OGeH96H96H9"]⟩]

end BreakKind

end TaggedStream
