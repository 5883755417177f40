import ItemAppraisal.Json.Printer
import ItemAppraisal.Text.Part

/-!
# Ore yields

Better qualities of an ore carry an adjective in front of its name and yield a bonus. They are priced
from the plain ore.
-/

namespace ItemAppraisal

/-- A quality of an ore: its adjective and its bonus in percent. -/
structure OreVariant where
  adjective : String
  bonus : Int
  deriving DecidableEq, Repr

/-- An ore with its qualities. -/
structure OreFamily where
  /-- The name of the plain ore. -/
  base : String
  /-- What the names of all qualities end with. -/
  ending : String
  variants : List OreVariant
  deriving DecidableEq, Repr

/-- The ore that a quality is priced from, and its bonus. -/
structure OreMatch where
  base : String
  bonus : Int
  deriving DecidableEq, Repr

namespace OreMatch

/-- The factor on the price of the plain ore. -/
def multiplier (m : OreMatch) : Float :=
  1 + Float.ofInt m.bonus / 100

/-- The plain ore and the bonus as a text. -/
def basis (m : OreMatch) : String :=
  m.base ++ " +" ++ Json.integerText m.bonus ++ "%"

end OreMatch

namespace OreFamily

/-- The word in front of the names of compressed ores, with the space after it. -/
def compressed : String := "Compressed "

/-- What stands in front of the name of the plain ore of an item: the word for compressed ores if the
name of the item starts with it. -/
def compression (name : String) : String :=
  if "Compressed".toList.isPrefixOf name.toList then compressed else ""

/-- The first quality of the family whose adjective is in a name. -/
def variant? (f : OreFamily) (name : String) : Option OreVariant :=
  f.variants.find? fun v => Text.contains v.adjective.toList name.toList

/-- The match of a name in a list of families: the first whose ending and one of whose adjectives it
has. The name of a plain ore has no match. -/
def match? (families : List OreFamily) (name : String) : Option OreMatch :=
  (families.filter fun f => f.ending.toList.isSuffixOf name.toList).findSome? fun f =>
    (f.variant? name).map fun v => ⟨compression name ++ f.base, v.bonus⟩

/-- A family of an ore with qualities of 5, 10 and 15 percent. -/
def common (base ending first second third : String) : OreFamily :=
  ⟨base, ending, [⟨first, 5⟩, ⟨second, 10⟩, ⟨third, 15⟩]⟩

/-- A family of a moon ore with qualities of 15 and 100 percent. -/
def moon (base first second : String) : OreFamily :=
  ⟨base, base, [⟨first, 15⟩, ⟨second, 100⟩]⟩

/-- The published ores. -/
def standard : List OreFamily :=
  [common "Arkonor" "Arkonor" "Crimson" "Prime" "Flawless",
    common "Bistot" "Bistot" "Triclinic" "Monoclinic" "Cubic",
    common "Crokite" "Crokite" "Sharp" "Crystalline" "Pellucid",
    common "Dark Ochre" "Ochre" "Onyx" "Obsidian" "Jet",
    common "Gneiss" "Gneiss" "Iridescent" "Prismatic" "Brilliant",
    common "Hedbergite" "Hedbergite" "Vitric" "Glazed" "Lustrous",
    common "Hemorphite" "Hemorphite" "Vivid" "Radiant" "Scintillating",
    common "Jaspet" "Jaspet" "Pure" "Pristine" "Immaculate",
    common "Kernite" "Kernite" "Luminous" "Fiery" "Resplendant",
    ⟨"Mercoxit", "Mercoxit", [⟨"Magma", 5⟩, ⟨"Vitreous", 10⟩]⟩,
    common "Omber" "Omber" "Silvery" "Golden" "Platinoid",
    common "Plagioclase" "Plagioclase" "Azure" "Rich" "Sparkling",
    common "Pyroxeres" "Pyroxeres" "Solid" "Viscous" "Opulent",
    common "Scordite" "Scordite" "Condensed" "Massive" "Glossy",
    common "Spodumain" "Spodumain" "Bright" "Gleaming" "Dazzling",
    common "Veldspar" "Veldspar" "Concentrated" "Dense" "Stable",
    moon "Bitumens" "Brimful" "Glistening",
    moon "Carnotite" "Replete" "Glowing",
    moon "Chromite" "Lavish" "Shimmering",
    moon "Cinnabar" "Replete" "Glowing",
    moon "Cobaltite" "Copious" "Twinkling",
    moon "Coesite" "Brimful" "Glistening",
    moon "Euxenite" "Copious" "Twinkling",
    moon "Loparite" "Bountiful" "Shining",
    moon "Monazite" "Bountiful" "Shining",
    moon "Otavite" "Lavish" "Shimmering",
    moon "Pollucite" "Replete" "Glowing",
    moon "Scheelite" "Copious" "Twinkling",
    moon "Sperrylite" "Lavish" "Shimmering",
    moon "Sylvite" "Brimful" "Glistening",
    moon "Titanite" "Copious" "Twinkling",
    moon "Vanadinite" "Lavish" "Shimmering",
    moon "Xenotime" "Bountiful" "Shining",
    moon "Ytterbite" "Bountiful" "Shining",
    moon "Zeolites" "Brimful" "Glistening",
    moon "Zircon" "Replete" "Glowing"]

end OreFamily

end ItemAppraisal
