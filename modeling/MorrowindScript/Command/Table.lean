import MorrowindScript.Command.Operand

/-!
# The commands of the game

The commands by number of parameters. One command may appear under several numbers with a different
layout under each.

* `Command.withParameters n`: the commands that take exactly `n` parameters.
-/

namespace MorrowindScript.Command

/-- Commands without parameters and without operands. -/
def bare : List (String × UInt16) :=
  [("activate", 0x1017), ("becomewerewolf", 0x11B3), ("cellchanged", 0x101F),
    ("cellupdate", 0x1013), ("clearforcejump", 0x119E), ("clearforcemovejump", 0x11A1),
    ("clearforcerun", 0x119B), ("clearforcesneak", 0x1164), ("clearinfoactor", 0x10CB),
    ("disable", 0x10DB), ("disablelevitation", 0x1194), ("disableplayercontrols", 0x10DE),
    ("disableplayerfighting", 0x115A), ("disableplayerjumping", 0x1140),
    ("disableplayerlooking", 0x1143), ("disableplayermagic", 0x115D),
    ("disableplayerviewswitch", 0x10E3), ("disableteleporting", 0x10EF),
    ("disablevanitymode", 0x114C), ("dontsaveobject", 0x115F), ("enable", 0x10DA),
    ("enablebirthmenu", 0x1129), ("enableclassmenu", 0x1128), ("enableinventorymenu", 0x1118),
    ("enablelevelupmenu", 0x1158), ("enablelevitation", 0x1193), ("enablemagicmenu", 0x111A),
    ("enablemapmenu", 0x1119), ("enablenamemenu", 0x1126), ("enableplayercontrols", 0x10DD),
    ("enableplayerfighting", 0x1159), ("enableplayerjumping", 0x113F),
    ("enableplayerlooking", 0x1142), ("enableplayermagic", 0x115C),
    ("enableplayerviewswitch", 0x10E2), ("enableracemenu", 0x1127), ("enablerest", 0x013F),
    ("enablestatreviewmenu", 0x1160), ("enablestatsmenu", 0x1117), ("enableteleporting", 0x10EE),
    ("enablevanitymode", 0x114B), ("fall", 0x1166), ("fillmap", 0x013E), ("fixme", 0x0131),
    ("forcegreeting", 0x10E8), ("forcejump", 0x119D), ("forcemovejump", 0x11A0),
    ("forcerun", 0x119A), ("forcesneak", 0x1163), ("getacrobatics", 0x1077),
    ("getagility", 0x102C), ("getaipackagedone", 0x10FB), ("getalarm", 0x1105),
    ("getalchemy", 0x106B), ("getalteration", 0x105C), ("getarmorbonus", 0x1176),
    ("getarmorer", 0x103E), ("getathletics", 0x1053), ("getattackbonus", 0x10A2),
    ("getattacked", 0x1148), ("getaxe", 0x104D), ("getblightdisease", 0x114A),
    ("getblindness", 0x117F), ("getblock", 0x103B), ("getbluntweapon", 0x1047),
    ("getbuttonpressed", 0x101E), ("getcastpenalty", 0x1179), ("getchameleon", 0x10C3),
    ("getcollidingactor", 0x11A4), ("getcollidingpc", 0x11A3), ("getcommondisease", 0x1149),
    ("getconjuration", 0x1062), ("getcurrentaipackage", 0x10FA), ("getcurrenttime", 0x1011),
    ("getcurrentweather", 0x10A1), ("getdefendbonus", 0x10A5), ("getdestruction", 0x1059),
    ("getdisabled", 0x10DC), ("getdisposition", 0x1098), ("getenchant", 0x1056),
    ("getendurance", 0x1032), ("getfatigue", 0x1092), ("getfight", 0x10FF), ("getflee", 0x1102),
    ("getflying", 0x1173), ("getforcejump", 0x119F), ("getforcemovejump", 0x11A2),
    ("getforcerun", 0x119C), ("getforcesneak", 0x1165), ("gethandtohand", 0x1089),
    ("gethealth", 0x108C), ("gethealthgetratio", 0x1154), ("getheavyarmor", 0x1044),
    ("gethello", 0x1108), ("getillusion", 0x105F), ("getintelligence", 0x1026),
    ("getinterior", 0x110B), ("getinvisibile", 0x1185), ("getinvisible", 0x1185),
    ("getlevel", 0x1157), ("getlightarmor", 0x107A), ("getlocked", 0x1161),
    ("getlongblade", 0x104A), ("getluck", 0x1038), ("getmagicka", 0x108F),
    ("getmarksman", 0x1080), ("getmasserphase", 0x1146), ("getmediumarmor", 0x1041),
    ("getmercantile", 0x1083), ("getmysticism", 0x1065), ("getparalysis", 0x1182),
    ("getpccrimelevel", 0x109B), ("getpcinjail", 0x11BB), ("getpcjumping", 0x118C),
    ("getpcrunning", 0x118B), ("getpcsleep", 0x10E0), ("getpcsneaking", 0x118A),
    ("getpctraveling", 0x11BC), ("getpcvisionbonus", 0x11B0), ("getpersonality", 0x1035),
    ("getplayercontrolsdisabled", 0x10DF), ("getplayerfightingdisabled", 0x115B),
    ("getplayerjumpingdisabled", 0x1141), ("getplayerlookingdisabled", 0x1144),
    ("getplayermagicdisabled", 0x115E), ("getreputation", 0x1095), ("getresistblight", 0x10B7),
    ("getresistcorprus", 0x10BA), ("getresistdisease", 0x10B4), ("getresistfire", 0x10AB),
    ("getresistfrost", 0x10AE), ("getresistmagicka", 0x10A8), ("getresistnormalweapons", 0x10C6),
    ("getresistparalysis", 0x10C0), ("getresistpoison", 0x10BD), ("getresistshock", 0x10B1),
    ("getrestoration", 0x1068), ("getscale", 0x118D), ("getsecondspassed", 0x1012),
    ("getsecundaphase", 0x1147), ("getsecurity", 0x1071), ("getshortblade", 0x107D),
    ("getsilence", 0x117C), ("getsneak", 0x1074), ("getspear", 0x1050),
    ("getspeechcraft", 0x1086), ("getspeed", 0x102F), ("getspellreadied", 0x11AF),
    ("getstandingactor", 0x1114), ("getstandingpc", 0x1113), ("getstrength", 0x1023),
    ("getsuperjump", 0x1170), ("getswimspeed", 0x116D), ("getunarmored", 0x106E),
    ("getvanitymodedisabled", 0x114D), ("getwaterbreathing", 0x1167), ("getwaterlevel", 0x1190),
    ("getwaterwalking", 0x116A), ("getweapondrawn", 0x11AE), ("getweapontype", 0x1197),
    ("getwerewolfkills", 0x11B6), ("getwillpower", 0x1029), ("getwindspeed", 0x10A0),
    ("goodbye", 0x10CA), ("gotojail", 0x10E9), ("iswerewolf", 0x11B5), ("lowerrank", 0x10CF),
    ("menumode", 0x1020), ("onactivate", 0x1018), ("ondeath", 0x10F0), ("onknockout", 0x10F1),
    ("onmurder", 0x10F2), ("payfine", 0x114F), ("payfinethief", 0x1189),
    ("pcforce1stperson", 0x113D), ("pcforce3rdperson", 0x113C), ("pcget3rdperson", 0x113E),
    ("raiserank", 0x10CE), ("resurrect", 0x10E7), ("samefaction", 0x109E), ("saydone", 0x111C),
    ("setatstart", 0x1010), ("setwerewolfacrobatics", 0x11B9), ("showrestmenu", 0x10E5),
    ("skipanim", 0x1016), ("stopcombat", 0x101A), ("turnmoonred", 0x11B7),
    ("turnmoonwhite", 0x11B8), ("undowerewolf", 0x11B4), ("unlock", 0x1137), ("wakeuppc", 0x10E1),
    ("xbox", 0x113A)]

/-- Commands that change a statistic of an actor. -/
def modifyStatistic : List (String × UInt16) :=
  [("modacrobatics", 0x1079), ("modagility", 0x102E), ("modalarm", 0x1107),
    ("modalchemy", 0x106D), ("modalteration", 0x105E), ("modarmorbonus", 0x1178),
    ("modarmorer", 0x1040), ("modathletics", 0x1055), ("modattackbonus", 0x10A4),
    ("modaxe", 0x104F), ("modblindness", 0x1181), ("modblock", 0x103D),
    ("modbluntweapon", 0x1049), ("modcastpenalty", 0x117B), ("modchameleon", 0x10C5),
    ("modconjuration", 0x1064), ("modcurrentfatigue", 0x1134), ("modcurrenthealth", 0x1132),
    ("modcurrentmagicka", 0x1133), ("moddefendbonus", 0x10A7), ("moddestruction", 0x105B),
    ("moddisposition", 0x109A), ("modenchant", 0x1058), ("modendurance", 0x1034),
    ("modfatigue", 0x1094), ("modfight", 0x1101), ("modflee", 0x1104), ("modflying", 0x1175),
    ("modhandtohand", 0x108B), ("modhealth", 0x108E), ("modheavyarmor", 0x1046),
    ("modhello", 0x110A), ("modillusion", 0x1061), ("modintelligence", 0x1028),
    ("modinvisible", 0x1187), ("modlightarmor", 0x107C), ("modlongblade", 0x104C),
    ("modluck", 0x103A), ("modmagicka", 0x1091), ("modmarksman", 0x1082),
    ("modmediumarmor", 0x1043), ("modmercantile", 0x1085), ("modmysticism", 0x1067),
    ("modparalysis", 0x1184), ("modpccrimelevel", 0x109D), ("modpcvisionbonus", 0x11B2),
    ("modpersonality", 0x1037), ("modreputation", 0x1097), ("modresistblight", 0x10B9),
    ("modresistcorprus", 0x10BC), ("modresistdisease", 0x10B6), ("modresistfire", 0x10AD),
    ("modresistfrost", 0x10B0), ("modresistmagicka", 0x10AA), ("modresistnormalweapons", 0x10C8),
    ("modresistparalysis", 0x10C2), ("modresistpoison", 0x10BF), ("modresistshock", 0x10B3),
    ("modrestoration", 0x106A), ("modscale", 0x118F), ("modsecurity", 0x1073),
    ("modshortblade", 0x107F), ("modsilence", 0x117E), ("modsneak", 0x1076), ("modspear", 0x1052),
    ("modspeechcraft", 0x1088), ("modspeed", 0x1031), ("modstrength", 0x1025),
    ("modsuperjump", 0x1172), ("modswimspeed", 0x116F), ("modunarmored", 0x1070),
    ("modwaterbreathing", 0x1169), ("modwaterlevel", 0x1192), ("modwaterwalking", 0x116C),
    ("modwillpower", 0x102B)]

/-- Commands that set a statistic of an actor. -/
def setStatistic : List (String × UInt16) :=
  [("setacrobatics", 0x1078), ("setagility", 0x102D), ("setalarm", 0x1106),
    ("setalchemy", 0x106C), ("setalteration", 0x105D), ("setarmorbonus", 0x1177),
    ("setarmorer", 0x103F), ("setathletics", 0x1054), ("setattackbonus", 0x10A3),
    ("setaxe", 0x104E), ("setblindness", 0x1180), ("setblock", 0x103C),
    ("setbluntweapon", 0x1048), ("setcastpenalty", 0x117A), ("setchameleon", 0x10C4),
    ("setconjuration", 0x1063), ("setdefendbonus", 0x10A6), ("setdestruction", 0x105A),
    ("setdisposition", 0x1099), ("setenchant", 0x1057), ("setendurance", 0x1033),
    ("setfatigue", 0x1093), ("setfight", 0x1100), ("setflee", 0x1103), ("setflying", 0x1174),
    ("sethandtohand", 0x108A), ("sethealth", 0x108D), ("setheavyarmor", 0x1045),
    ("sethello", 0x1109), ("setillusion", 0x1060), ("setintelligence", 0x1027),
    ("setinvisible", 0x1186), ("setlightarmor", 0x107B), ("setlongblade", 0x104B),
    ("setluck", 0x1039), ("setmagicka", 0x1090), ("setmarksman", 0x1081),
    ("setmediumarmor", 0x1042), ("setmercantile", 0x1084), ("setmysticism", 0x1066),
    ("setparalysis", 0x1183), ("setpccrimelevel", 0x109C), ("setpcvisionbonus", 0x11B1),
    ("setpersonality", 0x1036), ("setreputation", 0x1096), ("setresistblight", 0x10B8),
    ("setresistcorprus", 0x10BB), ("setresistdisease", 0x10B5), ("setresistfire", 0x10AC),
    ("setresistfrost", 0x10AF), ("setresistmagicka", 0x10A9), ("setresistnormalweapons", 0x10C7),
    ("setresistparalysis", 0x10C1), ("setresistpoison", 0x10BE), ("setresistshock", 0x10B2),
    ("setrestoration", 0x1069), ("setscale", 0x118E), ("setsecurity", 0x1072),
    ("setshortblade", 0x107E), ("setsilence", 0x117D), ("setsneak", 0x1075), ("setspear", 0x1051),
    ("setspeechcraft", 0x1087), ("setspeed", 0x1030), ("setstrength", 0x1024),
    ("setsuperjump", 0x1171), ("setswimspeed", 0x116E), ("setunarmored", 0x106F),
    ("setwaterbreathing", 0x1168), ("setwaterlevel", 0x1191), ("setwaterwalking", 0x116B),
    ("setwillpower", 0x102A)]

/-- Commands without parameters. Some fill the place of an operand with zeros. -/
def noParameters : List Command :=
  bare.map (fun (name, code) => ⟨name, .plain code []⟩) ++
  [⟨"getpcfacrep", .plain 0x10D7 [.literal 0x00]⟩,
    ⟨"getpcrank", .plain 0x10D6 [.literal 0x00]⟩,
    ⟨"menutest", .plain 0x1153 [.literal 0x00, .literal 0x00]⟩,
    ⟨"pcraiserank", .plain 0x10D0 [.literal 0x00]⟩]

/-- Commands with one parameter. -/
def oneParameter : List Command :=
  [⟨"addspell", .plain 0x111D [.text]⟩,
    ⟨"addtopic", .plain 0x1022 [.text]⟩,
    ⟨"aiactivate", .plain 0x10F9 [.text, .literal 0x00]⟩,
    ⟨"dropsoulgem", .plain 0x10ED [.text]⟩,
    ⟨"equip", .plain 0x110E [.text]⟩,
    ⟨"explodespell", .plain 0x11AD [.text]⟩,
    ⟨"fadein", .plain 0x1131 [.single]⟩,
    ⟨"fadeout", .plain 0x1130 [.single]⟩,
    ⟨"getangle", .plain 0x100C [.axis]⟩,
    ⟨"getarmortype", .plain 0x1198 [.short]⟩,
    ⟨"getdeadcount", .plain 0x10FE [.text]⟩,
    ⟨"getdetected", .plain 0x114E [.text]⟩,
    ⟨"getdistance", .marked 0x1001 [0x20, 0x72] [.text]⟩,
    ⟨"geteffect", .plain 0x1138 [.effect]⟩,
    ⟨"getitemcount", .marked 0x10FD [0x20, 0x6F] [.text]⟩,
    ⟨"getjournalindex", .marked 0x10CD [0x20, 0x64] [.text]⟩,
    ⟨"getlineofsight", .marked 0x10FC [0x20, 0x72] [.text]⟩,
    ⟨"getlos", .marked 0x10FC [0x20, 0x72] [.text]⟩,
    ⟨"getpccell", .plain 0x1112 [.text]⟩,
    ⟨"getpcfacrep", .plain 0x10D7 [.text]⟩,
    ⟨"getpcrank", .plain 0x10D6 [.text]⟩,
    ⟨"getpos", .plain 0x100A [.axis]⟩,
    ⟨"getrace", .plain 0x1139 [.text]⟩,
    ⟨"getsoundplaying", .plain 0x1188 [.text]⟩,
    ⟨"getspell", .marked 0x111F [0x20, 0x6F] [.text]⟩,
    ⟨"getspelleffects", .plain 0x1121 [.text]⟩,
    ⟨"getsquareroot", .plain 0x11AC [.singleOrLocal]⟩,
    ⟨"getstartingangle", .plain 0x100F [.axis]⟩,
    ⟨"getstartingpos", .plain 0x100E [.axis]⟩,
    ⟨"gettarget", .plain 0x1150 [.text]⟩,
    ⟨"hasitemequipped", .plain 0x1199 [.text]⟩,
    ⟨"hassoulgem", .plain 0x10EA [.text]⟩,
    ⟨"hitattemptonme", .plain 0x1116 [.text]⟩,
    ⟨"hitonme", .plain 0x1115 [.text]⟩,
    ⟨"hurtcollidingactor", .plain 0x11A5 [.single]⟩,
    ⟨"hurtstandingactor", .plain 0x1135 [.single]⟩,
    ⟨"lock", .plain 0x1136 [.short]⟩,
    ⟨"menutest", .plain 0x1153 [.text16]⟩,
    ⟨"messagebox", .plain 0x1000 [.text16, .literal 0x00, .literal 0x00]⟩,
    ⟨"modpcfacrep", .plain 0x10D9 [.single, .literal 0x00]⟩,
    ⟨"pcclearexpelled", .plain 0x10D3 [.text]⟩,
    ⟨"pcexpell", .plain 0x10D2 [.text]⟩,
    ⟨"pcexpelled", .plain 0x109F [.text]⟩,
    ⟨"pcjoinfaction", .plain 0x113B [.text]⟩,
    ⟨"pclowerrank", .plain 0x10D1 [.text]⟩,
    ⟨"pcraiserank", .plain 0x10D0 [.text]⟩,
    ⟨"playgroup", .plain 0x1014 [.group, .literal 0x00]⟩,
    ⟨"playloopsound3d", .plain 0x112E [.text]⟩,
    ⟨"playsound", .plain 0x1002 [.text]⟩,
    ⟨"playsound3d", .plain 0x112C [.text]⟩,
    ⟨"random", .plain 0x1021 [.short]⟩,
    ⟨"removeeffects", .removeEffects⟩,
    ⟨"removesoulgem", .plain 0x10EC [.text]⟩,
    ⟨"removespell", .plain 0x111E [.text]⟩,
    ⟨"removespelleffects", .plain 0x1120 [.text]⟩,
    ⟨"repairedonme", .plain 0x110F [.text]⟩,
    ⟨"scriptrunning", .plain 0x101D [.text]⟩,
    ⟨"setdelete", .setDelete⟩,
    ⟨"setlevel", .plain 0x1156 [.short]⟩,
    ⟨"setpcfacrep", .plain 0x10D8 [.single, .literal 0x00]⟩,
    ⟨"showmap", .plain 0x1152 [.text]⟩,
    ⟨"startcombat", .plain 0x1019 [.text]⟩,
    ⟨"startscript", .plain 0x101B [.text]⟩,
    ⟨"stopcombat", .plain 0x101A []⟩,
    ⟨"stopscript", .plain 0x101C [.text]⟩,
    ⟨"stopsound", .plain 0x1151 [.text]⟩,
    ⟨"streammusic", .plain 0x1003 [.text]⟩] ++
  modifyStatistic.map (fun (name, code) => ⟨name, .plain code [.singleOrLocal]⟩) ++
  setStatistic.map (fun (name, code) => ⟨name, .plain code [.singleOrLocal]⟩)

/-- Commands with two parameters. -/
def twoParameters : List Command :=
  [⟨"additem", .plain 0x10D4 [.text, .short]⟩,
    ⟨"addsoulgem", .plain 0x10EB [.text, .text]⟩,
    ⟨"cast", .plain 0x1123 [.text, .text]⟩,
    ⟨"changeweather", .plain 0x1124 [.text, .short]⟩,
    ⟨"drop", .plain 0x110D [.text, .short]⟩,
    ⟨"face", .plain 0x110C [.single, .single]⟩,
    ⟨"fadeto", .plain 0x1145 [.long, .single]⟩,
    ⟨"journal", .plain 0x10CC [.text, .short, .literal 0xFF, .literal 0xFF]⟩,
    ⟨"loopgroup", .plain 0x1015 [.group, .shortByte, .literal 0x00]⟩,
    ⟨"modpcfacrep", .plain 0x10D9 [.single, .text]⟩,
    ⟨"move", .plain 0x1006 [.axis, .single]⟩,
    ⟨"moveworld", .plain 0x1008 [.axis, .single]⟩,
    ⟨"playbink", .plain 0x1155 [.text, .shortByte]⟩,
    ⟨"playgroup", .plain 0x1014 [.group, .shortByte]⟩,
    ⟨"removeitem", .plain 0x10D5 [.text, .short]⟩,
    ⟨"removesoulgem", .plain 0x10EC [.text]⟩,
    ⟨"rotate", .plain 0x1007 [.axis, .single]⟩,
    ⟨"rotateworld", .plain 0x1009 [.axis, .single]⟩,
    ⟨"say", .plain 0x111B [.text, .text16]⟩,
    ⟨"setangle", .plain 0x100D [.axis, .singleOrLocal]⟩,
    ⟨"setjournalindex", .plain 0x112A [.text, .short, .literal 0xFF, .literal 0xFF]⟩,
    ⟨"setpcfacrep", .plain 0x10D8 [.single, .text]⟩,
    ⟨"setpos", .plain 0x100B [.axis, .singleOrLocal]⟩]

/-- Commands with three parameters. -/
def threeParameters : List Command :=
  [⟨"addtolevcreature", .plain 0x11A6 [.text, .text, .single]⟩,
    ⟨"addtolevitem", .plain 0x11A8 [.text, .text, .single]⟩,
    ⟨"aitravel", .plain 0x10F3 [.single, .single, .single, .literal 0x00]⟩,
    ⟨"aiwander", .plain 0x10F6 [.single, .single, .single, .literal 0x00, .literal 0x00, .literal 0x00]⟩,
    ⟨"face", .plain 0x110C [.single, .single]⟩,
    ⟨"loopgroup", .plain 0x1015 [.group, .shortByte, .shortByte]⟩,
    ⟨"modfactionreaction", .plain 0x1111 [.text, .text, .short]⟩,
    ⟨"playloopsound3dvp", .plain 0x112F [.text, .single, .single]⟩,
    ⟨"playsound3dvp", .plain 0x112D [.text, .single, .single]⟩,
    ⟨"playsoundvp", .plain 0x112B [.text, .single, .single]⟩,
    ⟨"removefromlevcreature", .plain 0x11A7 [.text, .text, .single]⟩,
    ⟨"removefromlevitem", .plain 0x11A9 [.text, .text, .single]⟩,
    ⟨"setfactionreaction", .plain 0x1110 [.text, .text, .short]⟩]

/-- Commands with four parameters. -/
def fourParameters : List Command :=
  [⟨"aitravel", .plain 0x10F3 [.single, .single, .single, .length]⟩,
    ⟨"placeatme", .plain 0x11BA [.text, .short, .single, .short]⟩,
    ⟨"placeatpc", .plain 0x10E6 [.text, .short, .single, .short]⟩,
    ⟨"position", .plain 0x1004 [.single, .single, .single, .single]⟩]

/-- Commands with five parameters. -/
def fiveParameters : List Command :=
  [⟨"aiescort", .plain 0x10F4 [.text, .short, .single, .single, .single, .literal 0x00]⟩,
    ⟨"aifollow", .plain 0x10F7 [.text, .short, .single, .single, .single, .literal 0x00]⟩,
    ⟨"placeitem", .plain 0x1195 [.text, .singleOrLocal, .singleOrLocal, .singleOrLocal, .singleOrLocal]⟩,
    ⟨"positioncell", .plain 0x1005 [.single, .single, .single, .single, .text]⟩]

/-- Commands with six parameters. -/
def sixParameters : List Command :=
  [⟨"aiescort", .plain 0x10F4 [.text, .short, .single, .single, .single, .literal 0x01]⟩,
    ⟨"aiescortcell", .plain 0x10F5 [.text, .text, .short, .single, .single, .single, .literal 0x00]⟩,
    ⟨"aifollow", .plain 0x10F7 [.text, .short, .single, .single, .single, .literal 0x01]⟩,
    ⟨"aifollowcell", .plain 0x10F8 [.text, .text, .short, .single, .single, .single, .literal 0x00]⟩,
    ⟨"aiwander", .wander 1⟩,
    ⟨"placeitemcell", .plain 0x1196 [.text, .text, .singleOrLocal, .singleOrLocal, .singleOrLocal, .singleOrLocal]⟩]

/-- Commands with seven parameters. -/
def sevenParameters : List Command :=
  [⟨"aiescortcell", .plain 0x10F5 [.text, .text, .short, .single, .single, .single, .literal 0x01]⟩,
    ⟨"aifollow", .plain 0x10F7 [.text, .short, .single, .single, .single, .literal 0x01]⟩,
    ⟨"aifollowcell", .plain 0x10F8 [.text, .text, .short, .single, .single, .single, .literal 0x01]⟩,
    ⟨"aiwander", .wander 3⟩]

/-- Commands with eight parameters. -/
def eightParameters : List Command :=
  [⟨"aifollow", .plain 0x10F7 [.text, .short, .single, .single, .single, .literal 0x01]⟩,
    ⟨"aiwander", .wander 3⟩]

/-- Commands with nine parameters. -/
def nineParameters : List Command :=
  [⟨"aiwander", .wander 1⟩,
    ⟨"modregion", .plain 0x1125 [.text, .shortByte, .shortByte, .shortByte, .shortByte, .shortByte, .shortByte, .shortByte, .shortByte, .literal 0x00, .literal 0x00]⟩]

/-- Commands with ten parameters. -/
def tenParameters : List Command :=
  [⟨"aiwander", .wander 1⟩]

/-- Commands with eleven parameters. -/
def elevenParameters : List Command :=
  [⟨"aiwander", .wander 2⟩,
    ⟨"modregion", .plain 0x1125 [.text, .shortByte, .shortByte, .shortByte, .shortByte, .shortByte, .shortByte, .shortByte, .shortByte, .shortByte, .shortByte]⟩]

/-- Commands with twelve parameters. -/
def twelveParameters : List Command :=
  [⟨"aiwander", .wander 2⟩]

/-- The largest number of parameters a command of the tables takes. -/
def maxParameters : Nat := 12

/-- The commands that take exactly `n` parameters. -/
def withParameters : Nat → List Command
  | 0 => noParameters
  | 1 => oneParameter
  | 2 => twoParameters
  | 3 => threeParameters
  | 4 => fourParameters
  | 5 => fiveParameters
  | 6 => sixParameters
  | 7 => sevenParameters
  | 8 => eightParameters
  | 9 => nineParameters
  | 10 => tenParameters
  | 11 => elevenParameters
  | 12 => twelveParameters
  | _ => []

/-- The command with the given name in lower case among those that take `n` parameters. -/
def find? (name : Bytes) (n : Nat) : Option Command :=
  (withParameters n).find? fun command => ascii command.name == name

end MorrowindScript.Command
