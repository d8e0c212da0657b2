import MorrowindScript.Bytes

/-!
# Opcodes

Every instruction of a compiled script starts with a 16-bit code. Codes from 0x1000 on are commands
of the game, the others belong to the statements of the language.
-/

namespace MorrowindScript

/-- The code an instruction starts with. -/
structure Opcode where
  /-- The code itself. -/
  code : UInt16
  deriving DecidableEq, Repr

namespace Opcode

open Bytes

/-! ## Codes with a form of their own -/

/-- The end of the script. -/
def scriptEnd : Opcode := ⟨0x0101⟩

/-- An assignment. -/
def assignment : Opcode := ⟨0x0105⟩

/-- The first branch of a conditional. -/
def ifBranch : Opcode := ⟨0x0106⟩

/-- A further branch of a conditional, with a condition. -/
def elseIfBranch : Opcode := ⟨0x0107⟩

/-- The last branch of a conditional, without a condition. -/
def elseBranch : Opcode := ⟨0x0108⟩

/-- The end of a conditional. -/
def ifEnd : Opcode := ⟨0x0109⟩

/-- A loop. -/
def whileLoop : Opcode := ⟨0x010A⟩

/-- The end of a loop. -/
def whileEnd : Opcode := ⟨0x010B⟩

/-- The object that the next instruction is about. -/
def qualifier : Opcode := ⟨0x010C⟩

/-- The end of the script for this frame. -/
def returning : Opcode := ⟨0x0124⟩

/-- Choices offered in a dialogue. -/
def choice : Opcode := ⟨0x10C9⟩

/-- A message with arguments and buttons. -/
def messageBox : Opcode := ⟨0x1000⟩

/-- The wandering of an actor. -/
def aiWander : Opcode := ⟨0x10F6⟩

/-- The removal of a magic effect. -/
def removeEffects : Opcode := ⟨0x1122⟩

/-- The deletion of an object. -/
def setDelete : Opcode := ⟨0x11AB⟩

/-! ## Names -/

/-- The names of all codes, in increasing order of the codes. -/
def names : Array (UInt16 × String) :=
  #[(0x0101, "End"), (0x0105, "Set"), (0x0106, "If"), (0x0107, "ElseIf"), (0x0108, "Else"),
    (0x0109, "EndIf"), (0x010A, "While"), (0x010B, "EndWhile"), (0x010C, "Qualifier"),
    (0x0124, "Return"), (0x0131, "FixMe"), (0x013E, "FillMap"), (0x013F, "EnableRest"),
    (0x1000, "MessageBox"), (0x1001, "GetDistance"), (0x1002, "PlaySound"),
    (0x1003, "StreamMusic"), (0x1004, "Position"), (0x1005, "PositionCell"), (0x1006, "Move"),
    (0x1007, "Rotate"), (0x1008, "MoveWorld"), (0x1009, "RotateWorld"), (0x100A, "GetPos"),
    (0x100B, "SetPos"), (0x100C, "GetAngle"), (0x100D, "SetAngle"), (0x100E, "GetStartingPos"),
    (0x100F, "GetStartingAngle"), (0x1010, "SetAtStart"), (0x1011, "GetCurrentTime"),
    (0x1012, "GetSecondsPassed"), (0x1013, "CellUpdate"), (0x1014, "PlayGroup"),
    (0x1015, "LoopGroup"), (0x1016, "SkipAnim"), (0x1017, "Activate"), (0x1018, "OnActivate"),
    (0x1019, "StartCombat"), (0x101A, "StopCombat"), (0x101B, "StartScript"),
    (0x101C, "StopScript"), (0x101D, "ScriptRunning"), (0x101E, "GetButtonPressed"),
    (0x101F, "CellChanged"), (0x1020, "MenuMode"), (0x1021, "Random"), (0x1022, "AddTopic"),
    (0x1023, "GetStrength"), (0x1024, "SetStrength"), (0x1025, "ModStrength"),
    (0x1026, "GetIntelligence"), (0x1027, "SetIntelligence"), (0x1028, "ModIntelligence"),
    (0x1029, "GetWillpower"), (0x102A, "SetWillpower"), (0x102B, "ModWillpower"),
    (0x102C, "GetAgility"), (0x102D, "SetAgility"), (0x102E, "ModAgility"), (0x102F, "GetSpeed"),
    (0x1030, "SetSpeed"), (0x1031, "ModSpeed"), (0x1032, "GetEndurance"),
    (0x1033, "SetEndurance"), (0x1034, "ModEndurance"), (0x1035, "GetPersonality"),
    (0x1036, "SetPersonality"), (0x1037, "ModPersonality"), (0x1038, "GetLuck"),
    (0x1039, "SetLuck"), (0x103A, "ModLuck"), (0x103B, "GetBlock"), (0x103C, "SetBlock"),
    (0x103D, "ModBlock"), (0x103E, "GetArmorer"), (0x103F, "SetArmorer"), (0x1040, "ModArmorer"),
    (0x1041, "GetMediumArmor"), (0x1042, "SetMediumArmor"), (0x1043, "ModMediumArmor"),
    (0x1044, "GetHeavyArmor"), (0x1045, "SetHeavyArmor"), (0x1046, "ModHeavyArmor"),
    (0x1047, "GetBluntWeapon"), (0x1048, "SetBluntWeapon"), (0x1049, "ModBluntWeapon"),
    (0x104A, "GetLongBlade"), (0x104B, "SetLongBlade"), (0x104C, "ModLongBlade"),
    (0x104D, "GetAxe"), (0x104E, "SetAxe"), (0x104F, "ModAxe"), (0x1050, "GetSpear"),
    (0x1051, "SetSpear"), (0x1052, "ModSpear"), (0x1053, "GetAthletics"),
    (0x1054, "SetAthletics"), (0x1055, "ModAthletics"), (0x1056, "GetEnchant"),
    (0x1057, "SetEnchant"), (0x1058, "ModEnchant"), (0x1059, "GetDestruction"),
    (0x105A, "SetDestruction"), (0x105B, "ModDestruction"), (0x105C, "GetAlteration"),
    (0x105D, "SetAlteration"), (0x105E, "ModAlteration"), (0x105F, "GetIllusion"),
    (0x1060, "SetIllusion"), (0x1061, "ModIllusion"), (0x1062, "GetConjuration"),
    (0x1063, "SetConjuration"), (0x1064, "ModConjuration"), (0x1065, "GetMysticism"),
    (0x1066, "SetMysticism"), (0x1067, "ModMysticism"), (0x1068, "GetRestoration"),
    (0x1069, "SetRestoration"), (0x106A, "ModRestoration"), (0x106B, "GetAlchemy"),
    (0x106C, "SetAlchemy"), (0x106D, "ModAlchemy"), (0x106E, "GetUnarmored"),
    (0x106F, "SetUnarmored"), (0x1070, "ModUnarmored"), (0x1071, "GetSecurity"),
    (0x1072, "SetSecurity"), (0x1073, "ModSecurity"), (0x1074, "GetSneak"), (0x1075, "SetSneak"),
    (0x1076, "ModSneak"), (0x1077, "GetAcrobatics"), (0x1078, "SetAcrobatics"),
    (0x1079, "ModAcrobatics"), (0x107A, "GetLightArmor"), (0x107B, "SetLightArmor"),
    (0x107C, "ModLightArmor"), (0x107D, "GetShortBlade"), (0x107E, "SetShortBlade"),
    (0x107F, "ModShortBlade"), (0x1080, "GetMarksman"), (0x1081, "SetMarksman"),
    (0x1082, "ModMarksman"), (0x1083, "GetMercantile"), (0x1084, "SetMercantile"),
    (0x1085, "ModMercantile"), (0x1086, "GetSpeechcraft"), (0x1087, "SetSpeechcraft"),
    (0x1088, "ModSpeechcraft"), (0x1089, "GetHandToHand"), (0x108A, "SetHandToHand"),
    (0x108B, "ModHandToHand"), (0x108C, "GetHealth"), (0x108D, "SetHealth"),
    (0x108E, "ModHealth"), (0x108F, "GetMagicka"), (0x1090, "SetMagicka"), (0x1091, "ModMagicka"),
    (0x1092, "GetFatigue"), (0x1093, "SetFatigue"), (0x1094, "ModFatigue"),
    (0x1095, "GetReputation"), (0x1096, "SetReputation"), (0x1097, "ModReputation"),
    (0x1098, "GetDisposition"), (0x1099, "SetDisposition"), (0x109A, "ModDisposition"),
    (0x109B, "GetPCCrimeLevel"), (0x109C, "SetPCCrimeLevel"), (0x109D, "ModPCCrimeLevel"),
    (0x109E, "SameFaction"), (0x109F, "PCExpelled"), (0x10A0, "GetWindSpeed"),
    (0x10A1, "GetCurrentWeather"), (0x10A2, "GetAttackBonus"), (0x10A3, "SetAttackBonus"),
    (0x10A4, "ModAttackBonus"), (0x10A5, "GetDefendBonus"), (0x10A6, "SetDefendBonus"),
    (0x10A7, "ModDefendBonus"), (0x10A8, "GetResistMagicka"), (0x10A9, "SetResistMagicka"),
    (0x10AA, "ModResistMagicka"), (0x10AB, "GetResistFire"), (0x10AC, "SetResistFire"),
    (0x10AD, "ModResistFire"), (0x10AE, "GetResistFrost"), (0x10AF, "SetResistFrost"),
    (0x10B0, "ModResistFrost"), (0x10B1, "GetResistShock"), (0x10B2, "SetResistShock"),
    (0x10B3, "ModResistShock"), (0x10B4, "GetResistDisease"), (0x10B5, "SetResistDisease"),
    (0x10B6, "ModResistDisease"), (0x10B7, "GetResistBlight"), (0x10B8, "SetResistBlight"),
    (0x10B9, "ModResistBlight"), (0x10BA, "GetResistCorprus"), (0x10BB, "SetResistCorprus"),
    (0x10BC, "ModResistCorprus"), (0x10BD, "GetResistPoison"), (0x10BE, "SetResistPoison"),
    (0x10BF, "ModResistPoison"), (0x10C0, "GetResistParalysis"), (0x10C1, "SetResistParalysis"),
    (0x10C2, "ModResistParalysis"), (0x10C3, "GetChameleon"), (0x10C4, "SetChameleon"),
    (0x10C5, "ModChameleon"), (0x10C6, "GetResistNormalWeapons"),
    (0x10C7, "SetResistNormalWeapons"), (0x10C8, "ModResistNormalWeapons"), (0x10C9, "Choice"),
    (0x10CA, "Goodbye"), (0x10CB, "ClearInfoActor"), (0x10CC, "Journal"),
    (0x10CD, "GetJournalIndex"), (0x10CE, "RaiseRank"), (0x10CF, "LowerRank"),
    (0x10D0, "PCRaiseRank"), (0x10D1, "PCLowerRank"), (0x10D2, "PCExpell"),
    (0x10D3, "PCClearExpelled"), (0x10D4, "AddItem"), (0x10D5, "RemoveItem"),
    (0x10D6, "GetPCRank"), (0x10D7, "GetPCFacRep"), (0x10D8, "SetPCFacRep"),
    (0x10D9, "ModPCFacRep"), (0x10DA, "Enable"), (0x10DB, "Disable"), (0x10DC, "GetDisabled"),
    (0x10DD, "EnablePlayerControls"), (0x10DE, "DisablePlayerControls"),
    (0x10DF, "GetPlayerControlsDisabled"), (0x10E0, "GetPCSleep"), (0x10E1, "WakeUpPC"),
    (0x10E2, "EnablePlayerViewSwitch"), (0x10E3, "DisablePlayerViewSwitch"),
    (0x10E5, "ShowRestMenu"), (0x10E6, "PlaceAtPC"), (0x10E7, "Resurrect"),
    (0x10E8, "ForceGreeting"), (0x10E9, "GotoJail"), (0x10EA, "HasSoulgem"),
    (0x10EB, "AddSoulGem"), (0x10EC, "RemoveSoulGem"), (0x10ED, "DropSoulGem"),
    (0x10EE, "EnableTeleporting"), (0x10EF, "DisableTeleporting"), (0x10F0, "OnDeath"),
    (0x10F1, "OnKnockout"), (0x10F2, "OnMurder"), (0x10F3, "AITravel"), (0x10F4, "AIEscort"),
    (0x10F5, "AIEscortCell"), (0x10F6, "AIWander"), (0x10F7, "AIFollow"),
    (0x10F8, "AIFollowCell"), (0x10F9, "AIActivate"), (0x10FA, "GetCurrentAIPackage"),
    (0x10FB, "GetAIPackageDone"), (0x10FC, "GetLineOfSight"), (0x10FD, "GetItemCount"),
    (0x10FE, "GetDeathCount"), (0x10FF, "GetFight"), (0x1100, "SetFight"), (0x1101, "ModFight"),
    (0x1102, "GetFlee"), (0x1103, "SetFlee"), (0x1104, "ModFlee"), (0x1105, "GetAlarm"),
    (0x1106, "SetAlarm"), (0x1107, "ModAlarm"), (0x1108, "GetHello"), (0x1109, "SetHello"),
    (0x110A, "ModHello"), (0x110B, "GetInterior"), (0x110C, "Face"), (0x110D, "Drop"),
    (0x110E, "Equip"), (0x110F, "RepairedOnMe"), (0x1110, "SetFactionReaction"),
    (0x1111, "ModFactionReaction"), (0x1112, "GetPCCell"), (0x1113, "GetStandingPC"),
    (0x1114, "GetStandingActor"), (0x1115, "HitOnMe"), (0x1116, "HitAttemptOnMe"),
    (0x1117, "EnableStatsMenu"), (0x1118, "EnableInventoryMenu"), (0x1119, "EnableMapMenu"),
    (0x111A, "EnableMagicMenu"), (0x111B, "Say"), (0x111C, "SayDone"), (0x111D, "AddSpell"),
    (0x111E, "RemoveSpell"), (0x111F, "GetSpell"), (0x1120, "RemoveSpellEffects"),
    (0x1121, "GetSpellEffects"), (0x1122, "RemoveEffects"), (0x1123, "Cast"),
    (0x1124, "ChangeWeather"), (0x1125, "ModRegion"), (0x1126, "EnableNameMenu"),
    (0x1127, "EnableRaceMenu"), (0x1128, "EnableClassMenu"), (0x1129, "EnableBirthMenu"),
    (0x112A, "SetJournalIndex"), (0x112B, "PlaySoundVP"), (0x112C, "PlaySound3D"),
    (0x112D, "PlaySound3DVP"), (0x112E, "PlayLoopSound3D"), (0x112F, "PlayLoopSound3DVP"),
    (0x1130, "FadeOut"), (0x1131, "FadeIn"), (0x1132, "ModCurrentHealth"),
    (0x1133, "ModCurrentMagicka"), (0x1134, "ModCurrentFatigue"), (0x1135, "HurtStandingActor"),
    (0x1136, "Lock"), (0x1137, "Unlock"), (0x1138, "GetEffect"), (0x1139, "GetRace"),
    (0x113A, "XBox"), (0x113B, "PCJoinFaction"), (0x113C, "PCForce3rdPerson"),
    (0x113D, "PCForce1stPerson"), (0x113E, "PCGet3rdPerson"), (0x113F, "EnablePlayerJumping"),
    (0x1140, "DisablePlayerJumping"), (0x1141, "GetPlayerJumpingDisabled"),
    (0x1142, "EnablePlayerLooking"), (0x1143, "DisablePlayerLooking"),
    (0x1144, "GetPlayerLookingDisabled"), (0x1145, "FadeTo"), (0x1146, "GetMasserPhase"),
    (0x1147, "GetSecundaPhase"), (0x1148, "GetAttacked"), (0x1149, "GetCommonDisease"),
    (0x114A, "GetBlightDisease"), (0x114B, "EnableVanityMode"), (0x114C, "DisableVanityMode"),
    (0x114D, "GetVanityModeDisabled"), (0x114E, "GetDetected"), (0x114F, "PayFine"),
    (0x1150, "GetTarget"), (0x1151, "StopSound"), (0x1152, "ShowMap"), (0x1153, "MenuTest"),
    (0x1154, "GetHealthGetRatio"), (0x1155, "PlayBink"), (0x1156, "SetLevel"),
    (0x1157, "GetLevel"), (0x1158, "EnableLevelUpMenu"), (0x1159, "EnablePlayerFighting"),
    (0x115A, "DisablePlayerFighting"), (0x115B, "GetPlayerFightingDisabled"),
    (0x115C, "EnablePlayerMagic"), (0x115D, "DisablePlayerMagic"),
    (0x115E, "GetPlayerMagicDisabled"), (0x115F, "DontSaveObject"),
    (0x1160, "EnableStatReviewMenu"), (0x1161, "GetLocked"), (0x1163, "ForceSneak"),
    (0x1164, "ClearForceSneak"), (0x1165, "GetForceSneak"), (0x1166, "Fall"),
    (0x1167, "GetWaterBreathing"), (0x1168, "SetWaterBreathing"), (0x1169, "ModWaterBreathing"),
    (0x116A, "GetWaterWalking"), (0x116B, "SetWaterWalking"), (0x116C, "ModWaterWalking"),
    (0x116D, "GetSwimSpeed"), (0x116E, "SetSwimSpeed"), (0x116F, "ModSwimSpeed"),
    (0x1170, "GetSuperJump"), (0x1171, "SetSuperJump"), (0x1172, "ModSuperJump"),
    (0x1173, "GetFlying"), (0x1174, "SetFlying"), (0x1175, "ModFlying"),
    (0x1176, "GetArmorBonus"), (0x1177, "SetArmorBonus"), (0x1178, "ModArmorBonus"),
    (0x1179, "GetCastPenalty"), (0x117A, "SetCastPenalty"), (0x117B, "ModCastPenalty"),
    (0x117C, "GetSilence"), (0x117D, "SetSilence"), (0x117E, "ModSilence"),
    (0x117F, "GetBlindness"), (0x1180, "SetBlindness"), (0x1181, "ModBlindness"),
    (0x1182, "GetParalysis"), (0x1183, "SetParalysis"), (0x1184, "ModParalysis"),
    (0x1185, "GetInvisible"), (0x1186, "SetInvisible"), (0x1187, "ModInvisible"),
    (0x1188, "GetSoundPlaying"), (0x1189, "PayFineThief"), (0x118A, "GetPCSneaking"),
    (0x118B, "GetPCRunning"), (0x118C, "GetPCJumping"), (0x118D, "GetScale"),
    (0x118E, "SetScale"), (0x118F, "ModScale"), (0x1190, "GetWaterLevel"),
    (0x1191, "SetWaterLevel"), (0x1192, "ModWaterLevel"), (0x1193, "EnableLevitation"),
    (0x1194, "DisableLevitation"), (0x1195, "PlaceItem"), (0x1196, "PlaceItemCell"),
    (0x1197, "GetWeaponType"), (0x1198, "GetArmorType"), (0x1199, "HasItemEquipped"),
    (0x119A, "ForceRun"), (0x119B, "ClearForceRun"), (0x119C, "GetForceRun"),
    (0x119D, "ForceJump"), (0x119E, "ClearForceJump"), (0x119F, "GetForceJump"),
    (0x11A0, "ForceMoveJump"), (0x11A1, "ClearForceMoveJump"), (0x11A2, "GetForceMoveJump"),
    (0x11A3, "GetCollidingPC"), (0x11A4, "GetCollidingActor"), (0x11A5, "HurtCollidingActor"),
    (0x11A6, "AddToLevCreature"), (0x11A7, "RemoveFromLevCreature"), (0x11A8, "AddToLevItem"),
    (0x11A9, "RemoveFromLevItem"), (0x11AB, "SetDelete"), (0x11AC, "GetSquareRoot"),
    (0x11AD, "ExplodeSpell"), (0x11AE, "GetWeaponDrawn"), (0x11AF, "GetSpellReadied"),
    (0x11B0, "GetPCVisionBonus"), (0x11B1, "SetPCVisionBonus"), (0x11B2, "ModPCVisionBonus"),
    (0x11B3, "BecomeWerewolf"), (0x11B4, "UndoWerewolf"), (0x11B5, "IsWerewolf"),
    (0x11B6, "GetWerewolfKills"), (0x11B7, "TurnMoonRed"), (0x11B8, "TurnMoonWhite"),
    (0x11B9, "SetWerewolfAcrobatics"), (0x11BA, "PlaceAtMe"), (0x11BB, "GetPCInJail"),
    (0x11BC, "GetPCTraveling")]

/-- The name of a code that is defined. -/
def name? (op : Opcode) : Option String :=
  (names.find? (·.1 == op.code)).map (·.2)

/-- The code is defined. -/
def isKnown (op : Opcode) : Bool :=
  op.name?.isSome

/-- The name of the code as it stands in listings. -/
def name (op : Opcode) : Bytes :=
  match op.name? with
  | some name => ascii name
  | none => ascii "Opcode(0x" ++ hexDigits hexDigitUpper 4 op.code.toNat ++ ascii ")"

/-- The two bytes of the code. -/
def encode (op : Opcode) : Bytes :=
  littleEndian 2 op.code.toNat

@[simp]
theorem length_encode (op : Opcode) : op.encode.length = 2 :=
  length_littleEndian 2 _

end Opcode

end MorrowindScript
