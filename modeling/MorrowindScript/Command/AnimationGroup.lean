import MorrowindScript.Bytes

/-!
# Animation groups

An animation group is written in a script by its name, in any case, and compiled to its number.
-/

namespace MorrowindScript.AnimationGroup

/-- The groups with their numbers. -/
def groups : List (String × Nat) :=
  [("attack1", 131), ("attack2", 132), ("attack3", 133), ("bowandarrow", 139), ("crossbow", 138),
    ("death1", 27), ("death2", 28), ("death3", 29), ("death4", 30), ("death5", 31),
    ("deathknockdown", 32), ("deathknockout", 33), ("handtohand", 137), ("hit1", 19),
    ("hit2", 20), ("hit3", 21), ("hit4", 22), ("hit5", 23), ("idle", 0), ("idle1h", 10),
    ("idle2", 1), ("idle2c", 11), ("idle2w", 12), ("idle3", 2), ("idle4", 3), ("idle5", 4),
    ("idle6", 5), ("idle7", 6), ("idle8", 7), ("idle9", 8), ("idlecrossbow", 15), ("idlehh", 9),
    ("idlesneak", 16), ("idlespell", 14), ("idlestorm", 17), ("idleswim", 13),
    ("inventoryhandtohand", 146), ("inventoryweapononehand", 147),
    ("inventoryweapontwohand", 148), ("inventoryweapontwowide", 149), ("jump", 67),
    ("jump1h", 97), ("jump2c", 112), ("jump2w", 127), ("jumphh", 82), ("knockdown", 34),
    ("knockout", 35), ("pickprobe", 145), ("runback", 60), ("runback1h", 90), ("runback2c", 105),
    ("runback2w", 120), ("runbackhh", 75), ("runforward", 59), ("runforward1h", 89),
    ("runforward2c", 104), ("runforward2w", 119), ("runforwardhh", 74), ("runleft", 61),
    ("runleft1h", 91), ("runleft2c", 106), ("runleft2w", 121), ("runlefthh", 76),
    ("runright", 62), ("runright1h", 92), ("runright2c", 107), ("runright2w", 122),
    ("runrighthh", 77), ("shield", 144), ("sneakback", 64), ("sneakback1h", 94),
    ("sneakback2c", 109), ("sneakback2w", 124), ("sneakbackhh", 79), ("sneakforward", 63),
    ("sneakforward1h", 93), ("sneakforward2c", 108), ("sneakforward2w", 123),
    ("sneakforwardhh", 78), ("sneakleft", 65), ("sneakleft1h", 95), ("sneakleft2c", 110),
    ("sneakleft2w", 125), ("sneaklefthh", 80), ("sneakright", 66), ("sneakright1h", 96),
    ("sneakright2c", 111), ("sneakright2w", 126), ("sneakrighthh", 81), ("spellcast", 128),
    ("spellturnleft", 129), ("spellturnright", 130), ("swimattack1", 134), ("swimattack2", 135),
    ("swimattack3", 136), ("swimdeath", 36), ("swimdeath2", 37), ("swimdeath3", 38),
    ("swimdeathknockdown", 39), ("swimdeathknockout", 40), ("swimhit1", 24), ("swimhit2", 25),
    ("swimhit3", 26), ("swimknockdown", 42), ("swimknockout", 41), ("swimrunback", 48),
    ("swimrunforward", 47), ("swimrunleft", 49), ("swimrunright", 50), ("swimturnleft", 51),
    ("swimturnright", 52), ("swimwalkback", 44), ("swimwalkforward", 43), ("swimwalkleft", 45),
    ("swimwalkright", 46), ("throwweapon", 140), ("torch", 18), ("turnleft", 57),
    ("turnleft1h", 87), ("turnleft2c", 102), ("turnleft2w", 117), ("turnlefthh", 72),
    ("turnright", 58), ("turnright1h", 88), ("turnright2c", 103), ("turnright2w", 118),
    ("turnrighthh", 73), ("walkback", 54), ("walkback1h", 84), ("walkback2c", 99),
    ("walkback2w", 114), ("walkbackhh", 69), ("walkforward", 53), ("walkforward1h", 83),
    ("walkforward2c", 98), ("walkforward2w", 113), ("walkforwardhh", 68), ("walkleft", 55),
    ("walkleft1h", 85), ("walkleft2c", 100), ("walkleft2w", 115), ("walklefthh", 70),
    ("walkright", 56), ("walkright1h", 86), ("walkright2c", 101), ("walkright2w", 116),
    ("walkrighthh", 71), ("weapononehand", 141), ("weapontwohand", 142), ("weapontwowide", 143)]

/-- The number of the group with the given name. -/
def find? (name : Bytes) : Option Nat :=
  (groups.find? fun group => ascii group.1 == name.lower).map (·.2)

end MorrowindScript.AnimationGroup
