import MorrowindScript.Variable

/-!
# Magic effects

A magic effect is written in a script by the name of the game setting that holds its title, in any
case. Its number is its place in the list.
-/

namespace MorrowindScript.Effect

/-- The setting names of the effects, in order of their numbers. -/
def names : List String :=
  ["sEffectWaterBreathing", "sEffectSwiftSwim", "sEffectWaterWalking", "sEffectShield",
    "sEffectFireShield", "sEffectLightningShield", "sEffectFrostShield", "sEffectBurden",
    "sEffectFeather", "sEffectJump", "sEffectLevitate", "sEffectSlowFall", "sEffectLock",
    "sEffectOpen", "sEffectFireDamage", "sEffectShockDamage", "sEffectFrostDamage",
    "sEffectDrainAttribute", "sEffectDrainHealth", "sEffectDrainSpellpoints",
    "sEffectDrainFatigue", "sEffectDrainSkill", "sEffectDamageAttribute", "sEffectDamageHealth",
    "sEffectDamageMagicka", "sEffectDamageFatigue", "sEffectDamageSkill", "sEffectPoison",
    "sEffectWeaknessToFire", "sEffectWeaknessToFrost", "sEffectWeaknessToShock",
    "sEffectWeaknessToMagicka", "sEffectWeaknessToCommonDisease",
    "sEffectWeaknessToBlightDisease", "sEffectWeaknessToCorprusDisease",
    "sEffectWeaknessToPoison", "sEffectWeaknessToNormalWeapons", "sEffectDisintegrateWeapon",
    "sEffectDisintegrateArmor", "sEffectInvisibility", "sEffectChameleon", "sEffectLight",
    "sEffectSanctuary", "sEffectNightEye", "sEffectCharm", "sEffectParalyze", "sEffectSilence",
    "sEffectBlind", "sEffectSound", "sEffectCalmHumanoid", "sEffectCalmCreature",
    "sEffectFrenzyHumanoid", "sEffectFrenzyCreature", "sEffectDemoralizeHumanoid",
    "sEffectDemoralizeCreature", "sEffectRallyHumanoid", "sEffectRallyCreature", "sEffectDispel",
    "sEffectSoultrap", "sEffectTelekinesis", "sEffectMark", "sEffectRecall",
    "sEffectDivineIntervention", "sEffectAlmsiviIntervention", "sEffectDetectAnimal",
    "sEffectDetectEnchantment", "sEffectDetectKey", "sEffectSpellAbsorption", "sEffectReflect",
    "sEffectCureCommonDisease", "sEffectCureBlightDisease", "sEffectCureCorprusDisease",
    "sEffectCurePoison", "sEffectCureParalyzation", "sEffectRestoreAttribute",
    "sEffectRestoreHealth", "sEffectRestoreSpellPoints", "sEffectRestoreFatigue",
    "sEffectRestoreSkill", "sEffectFortifyAttribute", "sEffectFortifyHealth",
    "sEffectFortifySpellpoints", "sEffectFortifyFatigue", "sEffectFortifySkill",
    "sEffectFortifyMagickaMultiplier", "sEffectAbsorbAttribute", "sEffectAbsorbHealth",
    "sEffectAbsorbSpellPoints", "sEffectAbsorbFatigue", "sEffectAbsorbSkill", "sEffectResistFire",
    "sEffectResistFrost", "sEffectResistShock", "sEffectResistMagicka",
    "sEffectResistCommonDisease", "sEffectResistBlightDisease", "sEffectResistCorprusDisease",
    "sEffectResistPoison", "sEffectResistNormalWeapons", "sEffectResistParalysis",
    "sEffectRemoveCurse", "sEffectTurnUndead", "sEffectSummonScamp", "sEffectSummonClannfear",
    "sEffectSummonDaedroth", "sEffectSummonDremora", "sEffectSummonAncestralGhost",
    "sEffectSummonSkeletalMinion", "sEffectSummonLeastBonewalker",
    "sEffectSummonGreaterBonewalker", "sEffectSummonBonelord", "sEffectSummonWingedTwilight",
    "sEffectSummonHunger", "sEffectSummonGoldensaint", "sEffectSummonFlameAtronach",
    "sEffectSummonFrostAtronach", "sEffectSummonStormAtronach", "sEffectFortifyAttackBonus",
    "sEffectCommandCreatures", "sEffectCommandHumanoids", "sEffectBoundDagger",
    "sEffectBoundLongsword", "sEffectBoundMace", "sEffectBoundBattleAxe", "sEffectBoundSpear",
    "sEffectBoundLongbow", "sEffectExtraSpell", "sEffectBoundCuirass", "sEffectBoundHelm",
    "sEffectBoundBoots", "sEffectBoundShield", "sEffectBoundGloves", "sEffectCorpus",
    "sEffectVampirism", "sEffectSummonCenturionSphere", "sEffectSunDamage",
    "sEffectStuntedMagicka"]

/-- The number of the effect with the given setting name. -/
def index? (name : Bytes) : Option Nat :=
  names.findIdx? fun n => (ascii n).equalFold name

end MorrowindScript.Effect
