import TaggedStream.Character.Set

/-!
Writing systems, and the characters that they use.

A character is in the table of one writing system, or in that of the common or the inherited
characters. Beside it some are used by several; where that makes a difference, a writing system
has a second table.
-/

namespace TaggedStream

/-- A writing system. -/
structure WritingSystem where
  /-- Its names, in lower case and without blanks. -/
  names : List String
  /-- The table of the characters that belong to it. -/
  table : List String
  /-- The table of the characters that are used in it, unless it is the same. -/
  usedTable : Option (List String) := none

namespace WritingSystem

/-- The characters that belong to a writing system. -/
def members (system : WritingSystem) : CharSet := .ofTable system.table

/-- The characters that are used in a writing system. -/
def usedMembers (system : WritingSystem) : CharSet := .ofTable (system.usedTable.getD system.table)

/-- All writing systems. -/
def all : List WritingSystem :=
  [⟨["adlm", "adlam"],
      ["HUPG0Kb4941"],
      some
        ["MHf0I00HQGe0TV10HRQReKb4941"]⟩,
    ⟨["ahom"],
      ["HHNG0Ha2e4H6"], none⟩,
    ⟨["hluw", "anatolianhieroglyphs"],
      ["HKKG0IK6"], none⟩,
    ⟨["arab", "arabic"],
      ["MG04151d121Hf19bH91Mb1I1L0IfV0I15Ka1HcVIL0HUd2OfI0fN041O6VM3HeK3588I15TVG031Ha111020191310",
       "1060401010121110201010101011102316131310191H052141H0J41"],
      some
        ["MG041T61I1L0IfV0I15Ka1HcHNKf0TV10STGeINfI0fN041O6JU3HbRM4HeK3588I15TVG031Ha111020191310",
         "1060401010121110201010101011102316131310191H052141H0J41"]⟩,
    ⟨["armn", "armenian"],
      ["LJ1I52J122VLO34"],
      some
        ["JG80II8I52J122VLO34"]⟩,
    ⟨["avst", "avestan"],
      ["HGRG0J536"],
      some
        ["R70ITN81TSSeJ536"]⟩,
    ⟨["bali", "balinese"],
      ["HRG0Kc1J1"], none⟩,
    ⟨["bamu", "bamum"],
      ["QMQ0L7SHG8IJ8"], none⟩,
    ⟨["bass", "bassavah"],
      ["HMQT0Hd25"], none⟩,
    ⟨["batk", "batak"],
      ["HRS0J383"], none⟩,
    ⟨["beng", "bengali"],
      ["PO0317212H51610332821238041142H8"],
      some
        ["IRc0MP41H11Ha317212H51610332821238041142H8HIT101021108080204022ORV90"]⟩,
    ⟨["bhks", "bhaiksuki"],
      ["HHSG081Ic1daHc"], none⟩,
    ⟨["bopo", "bopomofo"],
      ["IUa1IUH9IaN0Hf"],
      some
        ["IS7012d0H01ITH52491ca32060S309IaN0HfSSO51HHa4"]⟩,
    ⟨["brah", "brahmi"],
      ["HHGG0Kd4I390"], none⟩,
    ⟨["brai", "braille"],
      ["IOG0Vf"], none⟩,
    ⟨["bugi", "buginese"],
      ["HQG0Hb21"],
      some
        ["HQG0Hb21OVQf0"]⟩,
    ⟨["buhd", "buhid"],
      ["HNK0H3"],
      some
        ["HNJ519H3"]⟩,
    ⟨["cans", "canadianaboriginal"],
      ["HKG0INfIJ0K5HGHRaf"], none⟩,
    ⟨["cari", "carian"],
      ["HGIQ0J0"],
      some
        ["R70HVQ2020TT30TKMeJ0"]⟩,
    ⟨["aghb", "caucasianalbanian"],
      ["HGLJ0J3b0"],
      some
        ["JG40Ic0Ic0HGHT1J3b0"]⟩,
    ⟨["cakm", "chakma"],
      ["HHHG0J41H1"],
      some
        ["PU69ML09HGGR6J41H1"]⟩,
    ⟨["cham"],
      ["QQG0J69d2923"], none⟩,
    ⟨["cher", "cherokee"],
      ["HJQ0L525PNN2Kf"],
      some
        ["JG021061H61b1HGMeL525PNN2Kf"]⟩,
    ⟨["chrs", "chorasmian"],
      ["HGVR0Hb"], none⟩,
    ⟨["zyyy", "common"],
      ["0K0Ha5HaIe1e14H70Hf0HS1I6542H3N40906010INd060e030I00Pc0IG40O11KT90HP53HI20LUf2K71Sb110KSd0",
       "d073151220JG5b2L61a3a1eH1I1JeI512251Ha1H0I924IP9H6aH5JPfHG0IN32O9IG0LdHP2H4101H8f743Lb130L",
       "a1P3fI0I590J0JfHfL0If0L8Q7HPS0JfLPG0I1M62Q59V40Q00HOb0e1LHT21T09H6I21H213P301HfHa5Haaa0Id1",
       "K0616a4HG224Ic38L0cJ3IcU4HaRPQ43VLcVc3HR36H6fH0LfN3JcV5aI62Jd3H0817Hd4JcT5H3cH3cL69H8O7L41",
       "K6112021231b10161K01327161Hb131410361HL32HI32J1HKN1K3KcJcIS2Ib4M3ce2e1e1I4aQdJ8H911dIb4871",
       "e5PaJT83H03c3T96b40fb4J7896I78Hd2b41e8I7HL78d2c3a3J8104f2b497P21M6SGKG60HeLf"],
      some
        ["0K0Ha5HaIe1b1114H70Hf0HS12191030181015542H3Ne06010INd0T70IG40LLc0HP53HGI7b2I01He1911161",
         "a3a1eH1I1JeI512251Ha1H0I924IP9H6aH5JPfHG0IN32O9IG0H61H72913101H9HQ2030d0d0H50IH1H7Hf0J1",
         "ec3Q195LfHf0HPS0JfLPG8H9M62JT00e1LIQ49H6H42b1H213P301HfHa5Ha5Nf616a4HP2cJ3IcSQG3Vc3HR36",
         "H6fH0LfN3JcV5aI62Jd3H0817Hd4JcT5H3cH3cL6Hb6O7L41K6112021231b10161K01327161Hb131410361HL",
         "32HI32J1HKN1K3KcJcIS2Ib4M3ce2e1e1I4aQdJ8H911dIb48H75PaJT83H03c3T96b40fb4J7896I78Hd2b41e",
         "8I7HL78d2c3a3J8104f2b497P21M6SGKG60HeLf"]⟩,
    ⟨["copt", "coptic", "qaac"],
      ["JU2dIOP0N356"],
      some
        ["R70IK803110Mc1McdIOP0N356HH70TKS8Hb"]⟩,
    ⟨["xsux", "cuneiform"],
      ["HIGG0JP9M6Me14bS3"], none⟩,
    ⟨["cprt", "cypriot"],
      ["HGOG05201Ib113020"],
      some
        ["HGHG024Ic38MS05201Ib113020"]⟩,
    ⟨["cpmn", "cyprominoan"],
      ["HIVP0M2"],
      some
        ["HGHG01IUOeM2"]⟩,
    ⟨["cyrl", "cyrillic"],
      ["KG0O42Q8HNL0aQ00Kc0HGM7HfNOK0LfLNOe1UIG0JdI10"],
      some
        ["IRc0K321010102050UeHIfHNL0aQ00Kc0Nf0VU7HfK30NNVcLfLNOe1UIG0JdI10"]⟩,
    ⟨["dsrt", "deseret"],
      ["HGKG0Kf"], none⟩,
    ⟨["deva", "devanagari"],
      ["PG0L04e2H9PVM0HfNIG09"],
      some
        ["IRc0MK3L22IaHJL0I611JV60ONJf9Q6HfNIG09"]⟩,
    ⟨["diak", "divesakuru"],
      ["HHPG062027111Hd112b99"], none⟩,
    ⟨["dogr", "dogra"],
      ["HHOG0Jb"],
      some
        ["PM4bPUS09MVS6Jb"]⟩,
    ⟨["dupl", "duployan"],
      ["HRSG0Ma5c387923"],
      some
        ["R70IKf110H81IRH70HOTS3Ma5c387927"]⟩,
    ⟨["egyp", "egyptianhieroglyphs"],
      ["HJGG0KL5aVPa"], none⟩,
    ⟨["elba", "elbasan"],
      ["HGLG0I7"],
      some
        ["R70IKd0HGHVaI7"]⟩,
    ⟨["elym", "elymaic"],
      ["HGVU0H6"], none⟩,
    ⟨["ethi", "ethiopic"],
      ["HIG0K8132610132I8132I0132610132e1J8132K22Hf3H9HPU6H69616161616161616NTI2525259616HJSR16131",
       "11e"],
      some
        ["JGe0UV1K8132610132I8132I0132610132e1J8132K22Hf3H9HPU6H69616161616161616NTI2525259616HJS",
         "R1613111e"]⟩,
    ⟨["gara", "garay"],
      ["HGTK0I53Hc81"],
      some
        ["MGc0e030HGNI0I53Hc81"]⟩,
    ⟨["geor", "georgian"],
      ["HGQ0I510502Ia13RP0Ia22HGK0I51050"],
      some
        ["R70KT10RH6I510502IfRP0Ia22JPa0SQ5I51050HG30"]⟩,
    ⟨["glag", "glagolitic"],
      ["ISG0LfHRJQ061H0261114"],
      some
        ["R70IKb010HNe020HG10RN10VLe0RQ5LfHU30NOIb0HJPP061H0261114"]⟩,
    ⟨["goth", "gothic"],
      ["HGJJ0Ha"],
      some
        ["R70IKc120I80VVVeHa"]⟩,
    ⟨["gran", "grantha"],
      ["HHJG0317212H51611142821222060562634"],
      some
        ["PL11H11IO0dHGTc011He231JV60VIGf317212H51611141921222060562634SLb110"]⟩,
    ⟨["grek", "greek"],
      ["JN03122310401012101H31JeefHPI64J2444L40HK0H5252I525271010101He2J41e1d251H22218HI70OQJe0LLT",
       "aKeH10TGLfK5"],
      some
        ["R70IK81201010a0Ie020Ia72310401012101H31JeefHPI64J2444L42HJeH5252I525271010101He2J41e1d2",
         "51H22218Le0S80OQJe0LLTaKeH10TGLfK5"]⟩,
    ⟨["gujr", "gujarati"],
      ["QO1218121H516111429121220f32b76"],
      some
        ["PL11H11HHb218121H516111429121220f32b76PTJ09"]⟩,
    ⟨["gong", "gunjalagondi"],
      ["HHTM05111I4111579"],
      some
        ["R70OQc1HHJVa5111I4111579"]⟩,
    ⟨["guru", "gurmukhi"],
      ["QG1215412H516111111201441223073107H0"],
      some
        ["PL11H11Pb215412H516111111201441223073107H0PTR99"]⟩,
    ⟨["gukh", "gurungkhema"],
      ["HMHG0J9"],
      some
        ["PM50HLNPaJ9"]⟩,
    ⟨["hani", "han"],
      ["IUO0H91L8cT5If010H98e3JS4HPRfK0LHVfLPG0HMd2M9NLG81c6PGG9QMTfI0HHHd2HMOd2HTJ0fIMdPQ2IHdLU2H",
       "JKa5IHI9"],
      some
        ["R70ITS8H91L8cT5Haf121c1c1c2068Rb0P4fI0I590J0I7J8J0fbJ30L8H8a4M0He1HPRfK0LHVfNG07LHV8HMd",
         "2M9JMb1HHa4NGNc1c6MJM9H1HUTe1TQeQMTfI0HHHd2HMOd2HTJ0fIMdPQ2IHdLU2HJKa5IHI9"]⟩,
    ⟨["hang", "hangul"],
      ["HHG0VfHUIe1HG1LdN1HeK1HeNMU1HcIO3IRQ3cH64J0INQ4He35252522"],
      some
        ["HHG0VfHUG12491ce260S30J5LdN1HeK1HeNMU1HcIO3IRQ3cH64J0IMK91HHa4JaHe35252522"]⟩,
    ⟨["rohg", "hanifirohingya"],
      ["HGTG0I789"],
      some
        ["MGc0e030I00P30HGMIbI789"]⟩,
    ⟨["hano", "hanunoo"],
      ["HNI0H4"],
      some
        ["HNI0H6"]⟩,
    ⟨["hatr", "hatran"],
      ["HGOU0H21154"], none⟩,
    ⟨["hebr", "hebrew"],
      ["LP1J68Ha45VLI8H91410111119"],
      some
        ["JG71IO8J68Ha45VLI8H91410111119"]⟩,
    ⟨["hira", "hiragana"],
      ["JGK1L562HNVM1HHeH20Hd2KGQd0"],
      some
        ["JGG12491cH0510413L527La1STK81HHa4a0Id1RGM1HHeH20Hd2KGQd0"]⟩,
    ⟨["armi", "imperialaramaic"],
      ["HGOK0H518"], none⟩,
    ⟨["zinh", "inherited", "qaai"],
      ["JG0MfHH51HS4aHa0IU03HHLbId2bHU421c16406031S6JfIGc1S2I0VJ93Mb1STM5fH0dJSf0U20HGLa0RRS4Id2H6",
       "II02H1726He3SIVL2Uf"],
      some
        ["JGf0201e36202f111H11413LV01HHLbId2bIT6J51014IGc1S2HfTTH0fH0dJSf0STG2Id2H6II02H1726He3SI",
         "VL2Uf"]⟩,
    ⟨["phli", "inscriptionalpahlavi"],
      ["HGRM0H257"], none⟩,
    ⟨["prti", "inscriptionalparthian"],
      ["HGRK0H527"], none⟩,
    ⟨["java", "javanese"],
      ["QPO0Kd2941"],
      some
        ["QPO0Kd1a41"]⟩,
    ⟨["kthi", "kaithi"],
      ["HHGO0K2a0"],
      some
        ["PM69IKS10NPVe9MOK6K2a0"]⟩,
    ⟨["knda", "kannada"],
      ["SO0c121H619142812137152132912"],
      some
        ["PL11H11JHac121H619142812137152132912VTc01160H7010ORJb5"]⟩,
    ⟨["kana", "katakana"],
      ["JGQ1L922V0fT0Ie1L7SSGe91IcRGL23161110HHf2J20e3"],
      some
        ["JG50Hd0ISTd2491cH051041Lb33LfV0fT0Ie1L7SQUd1HHaJeRGL03161110HHf2J20e3"]⟩,
    ⟨["kawi"],
      ["HHVG0H01I83Hc"], none⟩,
    ⟨["kali", "kayahli"],
      ["QPG0Id10"],
      some
        ["QPG0If"]⟩,
    ⟨["khar", "kharoshthi"],
      ["HGQG031157121Hc224978"], none⟩,
    ⟨["kits", "khitansmallscript"],
      ["HMVU40HRHbHT5I90"], none⟩,
    ⟨["khmr", "khmer"],
      ["HNO0Ld2969HU6Hf"], none⟩,
    ⟨["khoj", "khojki"],
      ["HHIG0H11Ie"],
      some
        ["QU69PTK09MPS6H11Ie"]⟩,
    ⟨["sind", "khudawadi"],
      ["HHIR0Ja59"],
      some
        ["PM41PUSa9MQN6Ja59"]⟩,
    ⟨["krai", "kiratrai"],
      ["HMTK0J9"], none⟩,
    ⟨["laoo", "lao"],
      ["UO1110141H7101H62410161923"], none⟩,
    ⟨["latn", "latin"],
      ["K1H96H9If0f05H61He1HS0I74HQHbI56J0535c1K5K1VfHN10d0H0cOd160Hb0H1I8QT7HfNQQ2M53L1H4eJJ0Ia18",
       "13KVP66KHaH96H9OI551I918TNK5He65"],
      some
        ["K1H96H9If0c0205H61He1HS030a01210901064Hbe1110f27111I60504cHH51KSa1NQ80SG4I56J0535c1K5J9",
         "07VfHIf0K10d0H0cL30J9160Hb0H1I8QT7HfHP70NOU87HaM53L1H4eHIe0IG1Ia1813KVP66KHaH96H9OI551I",
         "918TNK5He65"]⟩,
    ⟨["lepc", "lepcha"],
      ["HSG0J73e32"], none⟩,
    ⟨["limb", "limbu"],
      ["HPG0He1b4b403b"],
      some
        ["PM50VPaHe1b4b403b"]⟩,
    ⟨["lina", "lineara"],
      ["HGMG0HJ69H5a7"],
      some
        ["HGHG7IcKScHJ69H5a7"]⟩,
    ⟨["linb", "linearb"],
      ["HGGG0b1H91H2111e2dI2Na"],
      some
        ["HGGG0b1H91H2111e2dI2Na524Ic38"]⟩,
    ⟨["lisu"],
      ["QKT0IfNQR00"],
      some
        ["IRc0H00ITJc1NKS4IfNQR00"]⟩,
    ⟨["lyci", "lycian"],
      ["HGIO0Hc"],
      some
        ["IGLa0UII5Hc"]⟩,
    ⟨["lydi", "lydian"],
      ["HGPI0H950"],
      some
        ["R70ITN90TQUeH950"]⟩,
    ⟨["mahj", "mahajani"],
      ["HHHL0I6"],
      some
        ["R70OQcbPUS09MPH6I6"]⟩,
    ⟨["maka", "makasar"],
      ["HHUU0H8"], none⟩,
    ⟨["mlym", "malayalam"],
      ["TG0c121J212154f2H9"],
      some
        ["PL11H11JPac121J212154f2H9VLa0H70ORJd2"]⟩,
    ⟨["mand", "mandaic"],
      ["OK0Hb20"],
      some
        ["MK00HVfHb20"]⟩,
    ⟨["mani", "manichaean"],
      ["HGQS0I64b"],
      some
        ["MK00HGKNfI64b"]⟩,
    ⟨["marc", "marchen"],
      ["HHSN0Hf2H51d"], none⟩,
    ⟨["gonm", "masaramgondi"],
      ["HHTG06111Ib30111889"],
      some
        ["PM41HHJPa6111Ib30111889"]⟩,
    ⟨["medf", "medefaidrin"],
      ["HMUK0La"], none⟩,
    ⟨["mtei", "meeteimayek"],
      ["QQU0H6S9Id29"], none⟩,
    ⟨["mend", "mendekikakui"],
      ["HUOG0S42f"], none⟩,
    ⟨["merc", "meroiticcursive"],
      ["HGPQ0H74H32Id"], none⟩,
    ⟨["mero", "meroitichieroglyphs"],
      ["HGPO0Hf"],
      some
        ["IGLd0UPI2Hf"]⟩,
    ⟨["plrd", "miao"],
      ["HMVG0Ka4J87H0"], none⟩,
    ⟨["modi"],
      ["HHMG0K4b9"],
      some
        ["QOJ09MTS6K4b9"]⟩,
    ⟨["mong", "mongolian"],
      ["HOG01201H36L87IaVTR5c"],
      some
        ["HOG0H96L87IaNO40VT1153UML4c"]⟩,
    ⟨["mroo", "mro"],
      ["HMQK0He1941"], none⟩,
    ⟨["mult", "multani"],
      ["HHIO0610131e1a"],
      some
        ["QM69HGOH0610131e1a"]⟩,
    ⟨["mymr", "myanmar"],
      ["HGG0PfPPK0HeM1HfMSL0H3"],
      some
        ["HGG0PfPOOe0R1HeM1HfMSL0H3"]⟩,
    ⟨["nbat", "nabataean"],
      ["HGOO0He88"], none⟩,
    ⟨["nagm", "nagmundari"],
      ["HUKT0I9"], none⟩,
    ⟨["nand", "nandinagari"],
      ["HHPQ072Id2a"],
      some
        ["PL10H21JO09VV908070ORJ55NHMa72Id2a"]⟩,
    ⟨["newa"],
      ["HHKG0Lb14"],
      some
        ["PL11HJO201190601010VNH2Lb14"]⟩,
    ⟨["talu", "newtailue"],
      ["HPO0Ib4H96a31"], none⟩,
    ⟨["nkoo", "nko"],
      ["NS0Ja22"],
      some
        ["MGc0e030HQ0Ja22VLJe1"]⟩,
    ⟨["nshu", "nushu"],
      ["HMVU10KHOeHOb"], none⟩,
    ⟨["hmnp", "nyiakengpuachuehmong"],
      ["HUHG0Ic3d2941"], none⟩,
    ⟨["ogam", "ogham"],
      ["HMO0Hc"], none⟩,
    ⟨["olck", "olchiki"],
      ["HSL0If"], none⟩,
    ⟨["hung", "oldhungarian"],
      ["HGSO0J2dJ275"],
      some
        ["IGLa020TT30f0TUJeJ2dJ275"]⟩,
    ⟨["ital", "olditalic"],
      ["HGJG0I392"], none⟩,
    ⟨["narb", "oldnortharabian"],
      ["HGQO0Hf"], none⟩,
    ⟨["perm", "oldpermic"],
      ["HGJL0Ia"],
      some
        ["R70IK8052a0HMf0VUScIa"]⟩,
    ⟨["xpeo", "oldpersian"],
      ["HGJQ0I34d"], none⟩,
    ⟨["sogo", "oldsogdian"],
      ["HGVG0I7"], none⟩,
    ⟨["sarb", "oldsoutharabian"],
      ["HGQM0Hf"], none⟩,
    ⟨["orkh", "oldturkic"],
      ["HGSG0K8"],
      some
        ["IGLa0TT50TTSfK8"]⟩,
    ⟨["ougr", "olduyghur"],
      ["HGVN0H9"],
      some
        ["MK00HGKR10KNdH9"]⟩,
    ⟨["onao", "olonal"],
      ["HULT0Ia40"],
      some
        ["PM41HTSMaIa40"]⟩,
    ⟨["orya", "oriya"],
      ["RG1217212H51611142821227241142H1"],
      some
        ["PL11H11HPb217212H51611142821227241142H1HHM20H70"]⟩,
    ⟨["osge", "osage"],
      ["HGKR0I34I3"],
      some
        ["JG102060Kc0HGHL7I34I3"]⟩,
    ⟨["osma", "osmanya"],
      ["HGKO0Hd29"], none⟩,
    ⟨["hmng", "pahawhhmong"],
      ["HMRG0K5a9161H45H2"], none⟩,
    ⟨["palm", "palmyrene"],
      ["HGOM0Hf"], none⟩,
    ⟨["pauc", "paucinhau"],
      ["HHQS0J8"], none⟩,
    ⟨["phag", "phagspa"],
      ["QOK0J7"],
      some
        ["HOG2110OI90VT20NOJdJ7"]⟩,
    ⟨["phnx", "phoenician"],
      ["HGPG0Hb30"], none⟩,
    ⟨["phlp", "psalterpahlavi"],
      ["HGRO0H173c6"],
      some
        ["MK00HGLJfH173c6"]⟩,
    ⟨["rjng", "rejang"],
      ["QPJ0I3b0"], none⟩,
    ⟨["runr", "runic"],
      ["HMQ0Ka3a"],
      some
        ["HMQ0L8"]⟩,
    ⟨["samr", "samaritan"],
      ["OG0Id2e"],
      some
        ["OG0Id2eILV20"]⟩,
    ⟨["saur", "saurashtra"],
      ["QOO0K58b"], none⟩,
    ⟨["shrd", "sharada"],
      ["HHHO0LfPO07"],
      some
        ["PL10HJO501021209020ORK2520MPK7LfPO07"]⟩,
    ⟨["shaw", "shavian"],
      ["HGKL0If"],
      some
        ["R70HGJP8If"]⟩,
    ⟨["sidd", "siddham"],
      ["HHLO0J52I5"], none⟩,
    ⟨["sgnw", "signwriting"],
      ["HTOG0IObf41e"], none⟩,
    ⟨["sinh", "sinhala"],
      ["TO121H13H7181026304510176922HGJUcH3"],
      some
        ["PM41KHb21H13H7181026304510176922UVd0VKUeH3"]⟩,
    ⟨["sogd", "sogdian"],
      ["HGVJ0I9"],
      some
        ["MK00HGOUfI9"]⟩,
    ⟨["sora", "sorasompeng"],
      ["HHGT0H879"], none⟩,
    ⟨["soyo", "soyombo"],
      ["HHQL0L2"], none⟩,
    ⟨["sund", "sundanese"],
      ["HRO0JfHG07"], none⟩,
    ⟨["sunu", "sunuwar"],
      ["HHRS0I1e9"],
      some
        ["JG01109020Hc030HHOOeI1e9"]⟩,
    ⟨["sylo", "sylotinagri"],
      ["QOG0Ic"],
      some
        ["PM41O09PUH0Ic"]⟩,
    ⟨["syrc", "syriac"],
      ["NG0d1Jb22HH0a"],
      some
        ["JG312110H827111ITa0e120I00aaHa0Ofd1Jb22HH0aHLOd010"]⟩,
    ⟨["tglg", "tagalog"],
      ["HNG0H590"],
      some
        ["HNG0H590H51"]⟩,
    ⟨["tagb", "tagbanwa"],
      ["HNM0c1211"],
      some
        ["HNJ51I9c1211"]⟩,
    ⟨["tale", "taile"],
      ["HPL0Hd24"],
      some
        ["JG015130TJ39PG6Hd24"]⟩,
    ⟨["lana", "taitham"],
      ["HQI0Je1Hc2a696d"], none⟩,
    ⟨["tavt", "taiviet"],
      ["QQO0K2H84"], none⟩,
    ⟨["takr", "takri"],
      ["HHMO0J969"],
      some
        ["PM41PUSa9MUK6J969"]⟩,
    ⟨["taml", "tamil"],
      ["RO2115321331101131323b4432132060eH4HHJS5J1d0"],
      some
        ["PL11H11IHc115321331101131323b4432132060eH4HGTf0OSH80MQGd010J71SO3J1d0"]⟩,
    ⟨["tnsa", "tangsa"],
      ["HMQN0Ke19"], none⟩,
    ⟨["tang", "tangut"],
      ["HMVU00HfHQVfIG0HeM1N2"],
      some
        ["IVV0fHUf0HJTV00HfHQVfIG0HeM1N2"]⟩,
    ⟨["telu", "telugu"],
      ["SG0c121H61f281213711211232978"],
      some
        ["PL11H11IPac121H61f281213711211232978HGL511010H70"]⟩,
    ⟨["thaa", "thaana"],
      ["NO0J1"],
      some
        ["MGc0e120K09HH6J1VMK00a0"]⟩,
    ⟨["thai"],
      ["UG1J95Hb"],
      some
        ["IRc0Ha0Ib0Id0QSfJ95Hb"]⟩,
    ⟨["tibt", "tibetan"],
      ["VG0K71I34I61I31e1641"],
      some
        ["VG0K71I34I61I31e1641IGId3"]⟩,
    ⟨["tfng", "tifinagh"],
      ["ITJ0J771e0"],
      some
        ["JG201013H90IQGcJ771e0"]⟩,
    ⟨["tirh", "tirhuta"],
      ["HHKO0K789"],
      some
        ["PL11H11HJMf0c0f0ORJd9MSK6K789"]⟩,
    ⟨["todr", "todhri"],
      ["HGLS0J3"],
      some
        ["JG1020209010Ka0HGIM1J3"]⟩,
    ⟨["toto"],
      ["HUIP0He"],
      some
        ["IRc0HTVT3He"]⟩,
    ⟨["tutg", "tulutigalari"],
      ["HHJO0910201I519102013191181"],
      some
        ["SU69HGG2010ORJb5Rb0MQOe910201I519102013191181"]⟩,
    ⟨["ugar", "ugaritic"],
      ["HGJO0Hd10"], none⟩,
    ⟨["vaii", "vai"],
      ["QLG0HIb"], none⟩,
    ⟨["vith", "vithkuqi"],
      ["HGLN0a1e16111a1e1611"], none⟩,
    ⟨["wcho", "wancho"],
      ["HUIS0J950"], none⟩,
    ⟨["wara", "warangciti"],
      ["HHOQ0L2c0"], none⟩,
    ⟨["yezi", "yezidi"],
      ["HGUO0I91221"],
      some
        ["MGc0e030K09HGOH6I91221"]⟩,
    ⟨["yiii", "yi"],
      ["QGG0KOc3J6"],
      some
        ["JGG115927Tf0MVG4KOc3J6LQPa4"]⟩,
    ⟨["zanb", "zanabazarsquare"],
      ["HHQG0K7"], none⟩]

end WritingSystem

end TaggedStream
