import BoardSim.Proofs.Command.FrameText

/-!
# The texts of a frame

An identifier and bytes can be written in many ways: behind the mark `0x` or without it, with zeros
ahead of the identifier, and each digit in either case. Every one of these texts is read as the
frame with just these parts. So a frame can be written out and read back, and no text stands for
two of them (`frameOf_renderingContract`). This holds for identifiers of at most twenty-nine bits; a
wider one is cut when it is read.
-/

namespace BoardSim.Command

open Text (IsDigit Numeral Signed)

-- ---------------------------------------------------------------------------
-- Renderings
-- ---------------------------------------------------------------------------

def octet (byte : UInt8) : List Nat := [byte.toNat / 16, byte.toNat % 16]

/-- A text for an identifier and bytes: the mark or none, any number of zeros, the identifier, `#`
and two digits for each byte, every digit in either case. -/
inductive Rendering (id : Nat) (bytes : List UInt8) : List Char → Prop
  | intro (marked : Bool) (zeros : Nat) {digits data : List Char}
      (identifier :
        List.Forall₂ (IsDigit 16) digits (List.replicate zeros 0 ++ Text.places 16 id))
      (payload : List.Forall₂ (IsDigit 16) data (bytes.flatMap octet)) :
      Rendering id bytes (marks marked.toNat ++ digits ++ '#' :: data)

def canonical (f : Can.Frame) : List Char :=
  (Text.places 16 f.id.toNat).map Text.upperDigit ++
    '#' :: (f.payload.flatMap octet).map Text.upperDigit

section
variable {text data : List Char} {id d : Nat} {bytes : List UInt8} {byte : UInt8}
  {high low : Char} {extended : Bool} {f : Can.Frame}

theorem lt_of_mem_octet (mem : d ∈ octet byte) : d < 16 := by
  have size : byte.toNat < 256 := byte.toNat_lt
  obtain rfl | rfl : d = byte.toNat / 16 ∨ d = byte.toNat % 16 := by simpa [octet] using mem
  · omega
  · omega

theorem rendering_canonical (f : Can.Frame) : Rendering f.id.toNat f.payload (canonical f) := by
  refine .intro false 0 (Text.forall₂_upperDigit (by decide) ?_)
    (Text.forall₂_upperDigit (by decide) ?_)
  · exact fun d mem => Text.lt_of_mem_places (by decide) mem
  · intro d mem
    obtain ⟨byte, -, inside⟩ := List.mem_flatMap.1 mem
    exact lt_of_mem_octet inside

example : canonical (.standard 0x100 [0x00, 0xFA]) = "100#00FA".toList := by decide

-- ---------------------------------------------------------------------------
-- A rendering has the form of a frame
-- ---------------------------------------------------------------------------

theorem numeral_octet (first : IsDigit 16 high (byte.toNat / 16))
    (second : IsDigit 16 low (byte.toNat % 16)) : Numeral 16 [high, low] byte.toNat := by
  refine ⟨List.cons_ne_nil _ _, _, .cons first (.cons second .nil), ?_⟩
  calc byte.toNat = byte.toNat % 16 + 16 * (byte.toNat / 16) := (Nat.mod_add_div _ _).symm
    _ = Nat.ofDigits 16 [byte.toNat % 16, byte.toNat / 16] := by
      rw [Nat.ofDigits_cons, Nat.ofDigits_singleton]

theorem pairs_of_octets (digits : List.Forall₂ (IsDigit 16) data (bytes.flatMap octet)) :
    Pairs (Numeral 16) data bytes := by
  induction bytes generalizing data with
  | nil =>
    obtain rfl := List.forall₂_nil_right_iff.1 digits
    exact .nil
  | cons byte rest ih =>
    obtain _ | ⟨first, _ | ⟨second, others⟩⟩ := digits
    exact .cons (numeral_octet first second) (ih others)

theorem Rendering.form (rendering : Rendering id bytes text) (short : bytes.length ≤ 8) :
    Form (Numeral 16) text id bytes := by
  obtain ⟨marked, zeros, identifier, payload⟩ := rendering
  exact .intro marked.toNat (Text.numeral_of_places identifier) (pairs_of_octets payload) short

-- ---------------------------------------------------------------------------
-- Reading
-- ---------------------------------------------------------------------------

/-- An identifier of at most twenty-nine bits is kept whole. -/
theorem Form.exists_frame (form : Form (Signed 16) text id bytes) (narrow : id ≤ 0x1FFFFFFF) :
    ∃ f, frameOf text = .ok f ∧ Carries f id (decide (0x7FF < id)) bytes := by
  have fits : id < UInt32.size := Nat.lt_of_le_of_lt narrow (by decide)
  have carries := carries_made fits form.short
  rw [Nat.mod_eq_of_lt (by omega)] at carries
  exact ⟨made id bytes, frameOf_eq_ok_iff.2 ⟨id, bytes, form, fits, rfl⟩, carries⟩

theorem Rendering.exists_frame (rendering : Rendering id bytes text) (narrow : id ≤ 0x1FFFFFFF)
    (short : bytes.length ≤ 8) :
    ∃ f, frameOf text = .ok f ∧ Carries f id (decide (0x7FF < id)) bytes :=
  ((rendering.form short).imp fun _ _ _ => .bare).exists_frame narrow

theorem Carries.payload (carries : Carries f id extended bytes) (short : bytes.length ≤ 8) :
    f.payload = bytes := by
  rw [Can.Frame.payload, carries.data, carries.dlc, Nat.min_eq_left short, List.take_left]

theorem Carries.rendering (carries : Carries f id extended bytes) (short : bytes.length ≤ 8) :
    Rendering id bytes (canonical f) := by
  have rendering := rendering_canonical f
  rwa [carries.id, carries.payload short] at rendering

/-- What is read from the canonical text has the same parts, and the parts make the frame. -/
theorem Carries.frameOf_canonical (carries : Carries f id (decide (0x7FF < id)) bytes)
    (narrow : id ≤ 0x1FFFFFFF) (short : bytes.length ≤ 8) : frameOf (canonical f) = .ok f := by
  obtain ⟨g, accepted, same⟩ := (carries.rendering short).exists_frame narrow short
  rw [accepted, same.unique carries]

end

structure RenderingContract (id : Nat) (bytes : List UInt8) : Prop where
  accepted {text : List Char} (rendering : Rendering id bytes text) :
    ∃ f, frameOf text = .ok f ∧ Carries f id (decide (0x7FF < id)) bytes
  /-- The frame that was read, even from a text with further marks or plus signs, has a canonical
  text, which is one of these and is read as the same frame. -/
  reread {text : List Char} {f : Can.Frame} (read : frameOf text = .ok f)
    (form : Form (Signed 16) text id bytes) :
    Rendering id bytes (canonical f) ∧ frameOf (canonical f) = .ok f
  unshared {id' : Nat} {bytes' : List UInt8} {text : List Char} (narrow' : id' ≤ 0x1FFFFFFF)
    (short' : bytes'.length ≤ 8) (rendering : Rendering id bytes text)
    (rendering' : Rendering id' bytes' text) : id' = id ∧ bytes' = bytes

theorem frameOf_renderingContract {id : Nat} {bytes : List UInt8} (narrow : id ≤ 0x1FFFFFFF)
    (short : bytes.length ≤ 8) : RenderingContract id bytes where
  accepted rendering := rendering.exists_frame narrow short
  reread {text f} read form := by
    obtain ⟨g, accepted, carries⟩ := form.exists_frame narrow
    obtain rfl : g = f := Except.ok.inj (accepted.symm.trans read)
    exact ⟨carries.rendering short, carries.frameOf_canonical narrow short⟩
  unshared narrow' short' rendering rendering' := by
    obtain ⟨f, read, carries⟩ := rendering.exists_frame narrow short
    obtain ⟨g, read', carries'⟩ := rendering'.exists_frame narrow' short'
    obtain rfl : f = g := Except.ok.inj (read.symm.trans read')
    exact ⟨carries'.id.symm.trans carries.id,
      (carries'.payload short').symm.trans (carries.payload short)⟩

/-- A mark, two zeros ahead and both cases. The text is not one for the identifier without its
upper bits. -/
theorem frameOf_renderingContract_mixedCase :
    0x18DAF110 ≤ 0x1FFFFFFF ∧ ([0x00, 0xFA] : List UInt8).length ≤ 8 ∧
      Rendering 0x18DAF110 [0x00, 0xFA] "0x0018daF110#00fA".toList ∧
      (∃ f, frameOf "0x0018daF110#00fA".toList = .ok f ∧
        Carries f 0x18DAF110 true [0x00, 0xFA] ∧
        canonical f = "18DAF110#00FA".toList ∧ frameOf (canonical f) = .ok f) ∧
      ¬Rendering 0x110 [0x00, 0xFA] "0x0018daF110#00fA".toList := by
  have rendering : Rendering 0x18DAF110 [0x00, 0xFA] "0x0018daF110#00fA".toList :=
    @Rendering.intro 0x18DAF110 [0x00, 0xFA] true 2 "0018daF110".toList "00fA".toList
      (by decide) (by decide)
  have contract : RenderingContract 0x18DAF110 [0x00, 0xFA] :=
    frameOf_renderingContract (by decide) (by decide)
  have form := (rendering.form (by decide)).imp fun _ _ _ => Signed.bare
  obtain ⟨f, read, carries⟩ := contract.accepted rendering
  refine ⟨by decide, by decide, rendering, ⟨f, read, carries, ?_, (contract.reread read form).2⟩,
    fun other => ?_⟩
  · obtain rfl : .extendedData 0x18DAF110 [0x00, 0xFA] = f :=
      Except.ok.inj ((by decide : frameOf _ = _).symm.trans read)
    decide
  · have same := (contract.unshared (by decide) (by decide) rendering other).1
    exact absurd same (by decide)

end BoardSim.Command
