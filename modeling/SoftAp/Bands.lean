/-!
# Radio bands

A request names the bands it may use as a set, kept as a mask of 32 bits.  Four of the bits stand
for bands; the others have no meaning but are part of the mask.
-/

namespace SoftAp

/-- A radio band. -/
inductive Band
  | ghz2
  | ghz5
  | ghz6
  | ghz60
  deriving DecidableEq, Repr

/-- A set of radio bands. -/
structure Bands where
  bits : UInt32 := 0
  deriving DecidableEq, Repr

/-- The set with one band. -/
def Band.mask : Band → Bands
  | .ghz2 => ⟨1⟩
  | .ghz5 => ⟨2⟩
  | .ghz6 => ⟨4⟩
  | .ghz60 => ⟨8⟩

namespace Bands

/-- The bands of two sets together. -/
def union (first second : Bands) : Bands :=
  ⟨first.bits ||| second.bits⟩

/-- Whether two sets share a bit. -/
def intersects (first second : Bands) : Bool :=
  first.bits &&& second.bits != 0

/-- Whether a band is in the set. -/
def has (band : Band) (bands : Bands) : Bool :=
  bands.intersects band.mask

/-- Whether two sets have the same bits. -/
def same (first second : Bands) : Bool :=
  first == second

/-- Whether the set is exactly one band, without any other bit. -/
def isOnly (band : Band) (bands : Bands) : Bool :=
  bands.same band.mask

/-- The set of the bands of a list. -/
def ofList (bands : List Band) : Bands :=
  bands.foldl (fun mask band => mask.union band.mask) {}

end Bands

end SoftAp
