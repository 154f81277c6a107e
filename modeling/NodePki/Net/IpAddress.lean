import NodePki.Bytes

/-!
# IP addresses

Addresses of both families as their octets, and the IPv6 addresses that stand for IPv4 ones:

* `normalize`: an IPv4-mapped address becomes the IPv4 address it stands for;
* `standsFor_iff`: it takes the last four of sixteen octets if the others are `::ffff`, and leaves every
  other address as it is;
* `octets_normalize`: what goes into a certificate does not depend on that;
* `ofOctets?_octets`: the octets read back to the normal form.
-/

namespace NodePki

/-- An address of either family. -/
inductive IpAddress
  | v4 (octets : Vector UInt8 4)
  | v6 (octets : Vector UInt8 16)
  deriving DecidableEq, Repr

namespace IpAddress

/-- The address of the host itself, `127.0.0.1`. -/
def localhost : IpAddress := v4 #v[127, 0, 0, 1]

/-- The first twelve octets of the IPv6 addresses that stand for IPv4 ones. -/
def mappedStart : Bytes := [0, 0, 0, 0, 0, 0, 0, 0, 0, 0, 0xff, 0xff]

/-- The IPv4 octets that an IPv6 address stands for. -/
def mapped? (o : Vector UInt8 16) : Option (Vector UInt8 4) :=
  if o.toList.take 12 = mappedStart then some #v[o[12], o[13], o[14], o[15]] else none

/-- The normal form: an IPv6 address that stands for an IPv4 one becomes that. -/
def normalize : IpAddress → IpAddress
  | v4 o => v4 o
  | v6 o => (mapped? o).elim (v6 o) v4

/-- The octets that a certificate holds: four or sixteen, of the normal form. -/
def octets (ip : IpAddress) : Bytes :=
  match ip.normalize with
  | v4 o => o.toList
  | v6 o => o.toList

/-- The address of four or sixteen octets. -/
def ofOctets? (bs : Bytes) : Option IpAddress :=
  if h : bs.length = 4 then some (v4 ⟨bs.toArray, by simpa using h⟩)
  else if h : bs.length = 16 then some (v6 ⟨bs.toArray, by simpa using h⟩)
  else none

/-- An IPv6 address whose first ten octets are zero and the next two `ff` stands for the IPv4 address of
its last four octets, and every other address for itself. -/
inductive StandsFor : IpAddress → IpAddress → Prop
  | v4 (o : Vector UInt8 4) : StandsFor (v4 o) (v4 o)
  | mapped {o : Vector UInt8 16} {p : Vector UInt8 4}
      (start : o.toList = List.replicate 10 0x00 ++ [0xff, 0xff] ++ p.toList) :
      StandsFor (v6 o) (v4 p)
  | v6 {o : Vector UInt8 16}
      (start : ∀ p : Vector UInt8 4, o.toList ≠ List.replicate 10 0x00 ++ [0xff, 0xff] ++ p.toList) :
      StandsFor (v6 o) (v6 o)

theorem mapped?_eq_some_iff {o : Vector UInt8 16} {p : Vector UInt8 4} :
    mapped? o = some p ↔ o.toList = List.replicate 10 0x00 ++ [0xff, 0xff] ++ p.toList := by
  obtain ⟨⟨os⟩, ho⟩ := o
  obtain ⟨⟨ps⟩, hp⟩ := p
  match os, ho, ps, hp with
  | [_, _, _, _, _, _, _, _, _, _, _, _, _, _, _, _], _, [_, _, _, _], _ =>
    simp [mapped?, mappedStart, Vector.toList, and_assoc]

/-- The normal form of an address is what it stands for. -/
theorem standsFor_iff {a b : IpAddress} : a.StandsFor b ↔ b = a.normalize := by
  constructor
  · intro h
    cases h with
    | v4 o => rfl
    | mapped start => rw [normalize, mapped?_eq_some_iff.2 start, Option.elim_some]
    | v6 start =>
      have hnone : mapped? _ = none :=
        Option.eq_none_iff_forall_ne_some.2 fun p hp => start p (mapped?_eq_some_iff.1 hp)
      rw [normalize, hnone, Option.elim_none]
  · rintro rfl
    cases a with
    | v4 o => exact .v4 o
    | v6 o =>
      cases h : mapped? o with
      | some p =>
        rw [normalize, h]
        exact .mapped (mapped?_eq_some_iff.1 h)
      | none =>
        rw [normalize, h]
        refine .v6 fun p hp => ?_
        rw [mapped?_eq_some_iff.2 hp] at h
        cases h

theorem normalize_normalize (ip : IpAddress) : ip.normalize.normalize = ip.normalize := by
  cases ip with
  | v4 o => rfl
  | v6 o =>
    cases h : mapped? o with
    | none => simp [normalize, h]
    | some p => simp [normalize, h]

theorem octets_normalize (ip : IpAddress) : ip.normalize.octets = ip.octets := by
  rw [octets, normalize_normalize, octets]

theorem ofOctets?_octets (ip : IpAddress) : ofOctets? ip.octets = some ip.normalize := by
  rw [octets]
  cases ip.normalize with
  | v4 o => simp [ofOctets?, Vector.toList]
  | v6 o => simp [ofOctets?, Vector.toList]

end IpAddress

end NodePki
