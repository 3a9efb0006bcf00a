import TaggedStream.Character.Set

/-!
Ages of characters: the version of the character database that a code point came with.
-/

namespace TaggedStream

/-- A version of the character database. -/
structure Age where
  /-- Its names, in lower case and without blanks. -/
  names : List String
  /-- The table of the code points that came with it. -/
  table : List String

namespace Age

/-- The code points that came with a version. -/
def members (age : Age) : CharSet := .ofTable age.table

/-- The version that came last. -/
def latest : Age :=
  ⟨["17.0", "v170"],
    ["OOf0JSc0Nf0TV2e2bLT50QT40NSJ712010Hc0LJT1fHRd1J66RN1H9LMb288I11SM47IK8Ib49LGR6H82H8HHe4HOG1",
      "7LG9H5M1N2JVG72HRdH6fH0HNSfHe1H581VT80Pe3HL58HNb3J2030J9040Hc040HGa0RRJf5HNM2bLLG2HGS9"]⟩

/-- The versions before the last one, in the order in which they came. -/
def earlier : List Age :=
  [⟨["1.1", "v11"],
      ["0HV54HdJ8L87Ie19H6K5Ha1H21403056101H31Ib16301010101H1db1K11b1I89J421213Hb2721J7I5261I610I",
        "6918cHa54H70e0301H95H2dd2K7241e1Hd29IG721J42H1243H8H0217212H5161033201621229041142H470254",
        "12H51611111120144122b3107ec21610121H516111429121220f059H1217212H51611232731228141124aH111",
        "532133110113132371244321390fbe217121H61914461213719149H2117121H6191446121371701149H211712",
        "1H61f452213908149P1J94HcI51102110206316121010211c122410152921HS2I5aI6404L95K35L1SG6Pa5L96",
        "H5252I525271010101He2J41e1d251H222181Ie1H6I363HaH1aI5H1HeJ8HaIfdLaH5V1e01N8O5I4HbaH5OaH5P",
        "5aKfH0H36L5P13132Hb1I21013301626eHe3H71dOK1J7701L3452Ld6I74Ld1fM0Hc3I3HcHb3J1fb4Ie1N64M22",
        "HeHQG1LHQ5KGLaHQIdT26c46H8141011111MbI1HMcH0Jf2J5I8bI43cH4491H21342101O6201Ld2Ld352525223",
        "616e2"]⟩,
    ⟨["2.0", "v20"],
      ["LP1H01cH40PJbK71I07Ha45101H43610UU10IGf0ORL4IRQ3HIOLa1VVVe1VVVe1VVVe1VVVe1VVVe1VVVe1VVVe1",
        "VVVe1VVVe1VVVe1VVVe1VVVe1VVVeIGGG1"]⟩,
    ⟨["2.1", "v21"],
      ["IGQc0TVKf0"]⟩,
    ⟨["3.0", "v30"],
      ["HV63He72H1N54J10a4L78H30N4030101010He0c0K20c0Ia123Lc1Pc0S82M2150f0Ia41d1Hd3HaJ5J0LT111H13",
        "H718102630451017H22HN50Ib0H7270121e20J0I1141116336H9HQ661Je10132610132I610132He1013261013",
        "26161H61He1013261I61H26HbI3L4cIN59Hc3L0OfLc39H6e196L78I9NO50H85Lf2J21L51K80M78HGd0N901HdO",
        "a1HS97I10L61HOeVfLO0H91L8cT5HabJc230HM1H7IK8HPR5LIKaKOc3H12f1b1210LML60KTb2"]⟩,
    ⟨["3.1", "v31"],
      ["JV41VPTaHfLH0He13cHaR5I52I5SRR2V5aI63R3II2L41K6112021231b1013111K01327161Hb131410361HL14H",
        "I14J1IOG0QMT6LHI9IHdRGLU30HeLf"]⟩,
    ⟨["3.2", "v32"],
      ["II00HIe0H3cM81Hc0P31J912121J1fHLe1HK10PK51MG7c16bH69H3cc1211OT30644074d0Je1J26L2eQ8bV2dNc",
        "0HeJ3HHcH3P79L87H61Lab29TedLaHb4fHG0HVfLJb2L7181Le0V0fL1eL1eNHU21H00c030LLMaJaJP103fJ51Ic",
        "0Ub1"]⟩,
    ⟨["4.0", "v40"],
      ["II10H22N71JfH0L0752P74IG4398K02P51f0Id2Hd2HR40R80K3010O80L42d0K30Jb0O17S11RHf0H29HG6Hc3b4",
        "b403I924MbHfJG0MbIU71U60IP31HIe0HH41N47e1KLedNGf1J10Ib1Ke3Q73M31Hf0HPS0JfQVVd0K91HR7b1H91",
        "H2111e2dI2Na524Ic38IK0Hd10O61I6Kf29JL65201Ib113020SQS0L6HMa0SISJeUf"]⟩,
    ⟨["4.1", "v41"],
      ["IJ7aHH64Pf3V61Qa0I22K30H20Ja5V1HdIGf0L00HU70If0JU91HI7110HGa0Jf0Jf0I70Hf0Hf0Hf0f0I70H71Hf",
        "H9LU6I96H96941I0Hb21JKcL7IP1116J14Hd3J50L00f0IO4aIJc0M51H2a5fHGe6JK75UcIe1IeI1MaeIcaJ590H",
        "0H69616161616161616I1H741JQ2fQe0MTI7H5NK4H6U9IbLIK4M9JJ69JI6KaIH5I34dMIa31157121Ha424888S",
        "NQ7K5KLe1"]⟩,
    ⟨["5.0", "v50"],
      ["IK2dHIb2HL10Ia5H03Q60IG5JaHO0111JM21d1UGdKb4IcIK76J31IUc3Ld1J50IL7bISa0HH43JK9653HJcc73NQ",
        "Pf351HHeJ7MGO8H950HMU0JMeP1M2d3QUUcH1KL81"]⟩,
    ⟨["5.1", "v51"],
      ["JN0321L70R70OcfU24b4I04HIeH1HV11Te0I30Se0Hd1Mc0Mc0Ha181H47Rd060Hd1c536HUb1M1032Kd05020724",
        "5HaJf41OGa0IT5Ia3bK6J73e3J2HKbHbR53La5HM40Ob0Le0J53LH40H5933HG80Hf3JIb44I834HH821245HM2Hf",
        "H832H2IVc0Q2H3MTT87LJcHIbH4Hf2H18HbO342MaMe4O0K49bI6L3b0Q0J69d2923LJS42JM9bJ4IdO2Hc3J0MKf",
        "H950SNU90HUT6Ib4M3"]⟩,
    ⟨["5.2", "v52"],
      ["LI41ITaId2eS10Kd060I31O00LT93S13Rc4K44L25IG00IN68IJ0K5R41Ie0K5Je1Hc2a696dII2I2HGa0IR82P72",
        "J60ILe0IR51Hd2491H2104H7L70JVd4HH60d1Mb6HJf0KH2bMTN47LG4IfHQ0L7HJ89Q6HbM4Hc3Kd1a41O0Hb4K2",
        "H84U0Id29IRR6H64J0IIMf2TT2H518Ra1HK4HfO0J53Hc2Ha57O0K8IH7HeIG1K1HVJeKIeRST1a5He20b0102030",
        "348070H901120a320Mf0fI1e8RKR7HGJ4"]⟩,
    ⟨["6.0", "v60"],
      ["LI61V80Je0HU0Hb20Tb1H3061Hb4HVa5HR10H00H30IJd3K91JO21OM1J383HVc0IP87Hc0JIfaITa0H3013Hd041",
        "Hc0I30104291J42H80e0e1LQ00e0KJ82NKQ51HIb111e9L00JG6525259616LGO3fHKJeKd4HdLNP0IJ8KLS71KGP",
        "ee2d2e1eL001a10111212571619681021194119KbH911If8H51QeI0f51K53H3cI414H5H0fJe101R5133JdH2H7",
        "P341f1210101012152310231b4aJ0K5JaN3RVScTd"]⟩,
    ⟨["6.1", "v61"],
      ["LOf0N40IPb01aJ7HaHV10JUd1HU7050If2QQb2c5HG07Ib3QT4010LI41J3050J81Sa9NHP00MQ77I30V21H60Kd1",
        "IU6H6KVJ71VL0J761NH0H8796J41dJcK879KQ6J789LOJ6K4bIeH0H0NUM031Ha11102019131010604010101211",
        "10201010101011102316131310191H052141H0J41IN81JT43Rc0H00301010103061401140"]⟩,
    ⟨["6.2", "v62"],
      ["IGRa0"]⟩,
    ⟨["6.3", "v63"],
      ["MHc0HQK93"]⟩,
    ⟨["7.0", "v70"],
      ["JNf0HQ87Ld1N60IPb0b5Kc0N8070INf0J30Kc0Nf0U49PG17II41HP1eIJ91UdeIS52JJ66JG50KKc2aH92Hf2I13",
        "b17IMa6NOL55V6bb221K50HU8HeNd3R0If41LIS16JLd1H30HJfHbI30J0IaHO5I78J3b0P0HJ69H5a7V8Je88HT0",
        "HfI0I64bO9H173c6KSf0T0I6L60c06H3bH11IaN2Ja597217212H516111428212290562634HGbK789Q6J52H1J6",
        "K4b9IK6L2c0HS0J8ON6I9Sab50KLSbHe1941M0Hd25aK5a9161H45H2LGN0Ma5c387927IRLcS42fNU80I0H5H51I",
        "H4b90K60H6bI50535bH16K7010R6041Jf146HdH11I81L5K61dIfK69H0c33OcL4Ibb4J7896I78Hd"]⟩,
    ⟨["8.0", "v80"],
      ["OR31Ie0IH50HM00HG40MP5025SS00Sb1QM03NJTd8MS80V00I25HK41IM23cKfLIMe1QR0H21154Rc12f2IdIO0J2",
        "dJ275KS93e4Q0610131e1aL60Kf0IN9H3HI2H93e4fSL90U6S3HURcIK6ORP7aMH7IObf41eHONd2Ke1Kf4I47Vf0",
        "Kb4V31Ob0IJf8M74Jb0RULfHMO1"]⟩,
    ⟨["9.0", "v90"],
      ["OR67H6eJPd0Se04216H72VG78HN20LVf3QK41NPM90HH60LOS71JI1I34I3TK20HS1L91010IG2cLP381Ic1daHc3",
        "Hf2H51dLJI90HfHNUcH3IV2LLGd61H0261114OT5Ka5941OJbH1Oe0JJe0I90HIc1I12II2517802b1b4eI6c"]⟩,
    ⟨["10.0", "v100"],
      ["OM0aHP11Vc5IG00Ja1VRa0Ve3IS50JJf0NT20IN24IU40MUQ7H4MJK22HMT0K78J32H614ILd6111Ib30111889LI",
        "O70KGI0HHcL1HObJVM45KMd1I21IG7bH308711H90H2cI65J8H6TKS9HTJ0"]⟩,
    ⟨["11.0", "v110"],
      ["LM00I70M60IGd2T30HIa0N70HOd0Nf0RV30KH7Ia22UVa2H6H84eIKb4IU00MURb4NRf081HK41MHJ41H20IR7I78",
        "9HS6I78I9HN30N62HV40HI20IRb0U5JbIM10IS25111I4111579HJ6H8KVK7LaHPL24KQUeH3Ne6HOV8K3KNa0LS9",
        "0Tb3HN42Hc4233013H8ad971I4H8M0d"]⟩,
    ⟨["12.0", "v120"],
      ["SN70IGe020201540707120d0UJf0USe0J50IKf0NPMa524JPf1MKN8H6KM80IL80IU772Id2aPf1LJaJ1d0HKJ08J",
        "RGc540If8La1HOGe5IPL82H13IVP8Ic3d2941HN0J950MKb0JR5JcKIe0LM80I40U5bHI12If0J1090I9531a5372",
        "2J0L3Hc34252d5"]⟩,
    ⟨["12.1", "v121"],
      ["JIVf0"]⟩,
    ⟨["13.0", "v130"],
      ["ORe9IOd0HQe0Nc0TJd1HGT60IR82JM84HRV69LIJ0cNSa3Ia1J50JJb3LMJ00SU3I91221VeHbHNb0O61IOa051KP",
        "e62027111Hd112b99ML60LGJ30b1HRG1HU2Ia8MKG42Ld2Jd0LI81I31HR31La0M5041Ia162Hd0Q80e3fH27692d",
        "6I9P21J6I59QQTd6LPI2HJKa"]⟩,
    ⟨["14.0", "v140"],
      ["MHd0IL2He1167H50H2aJM90I00Nf0QIf07090Uf0IR1dNd0J01INb0IS50RMe0If0HV3aNHPf2NS01e11014H82LJ",
        "Sd0HNdfNf0Ie1NN0a1e16111a1e1611HS351I918NR5H9U65Kc0LV60O66JM9fHKT0M2JQNdKe19KLI631611HI03",
        "HTTdId2H69N3II51TH5HeJN1HeLJ1613111eUTe2HH00HO80L20Qe1Ic3a382H126786QRU71HGL53"]⟩,
    ⟨["15.0", "v150"],
      ["SV30HTa0HGGIe2JJf2ORe9JV6H01I83HbHKT509HcNSTc0I20IHMaH3SL15HG5JdI10KK0I9HHU20P7244L90IPb2",
        "f1I42b210e1a1c0e1RSK00LSH6HGLf"]⟩,
    ⟨["15.1", "v151"],
      ["IVVc3HUf0IRQG0IMd"]⟩,
    ⟨["16.0", "v160"],
      ["OP70HIR61If0HG91NPc2TRa1NLU52c2LTU3J3NKcI53Hc81HJ22J70KO3910201I519102013191181IUdH3KTcI1",
        "e9JM00HLG5VPaHTG5J9SG6J9HVO50JVG0V96HR3HNHcIa40HIR2941HS7050Ie070H502090U1I4"]⟩]

end Age

end TaggedStream
