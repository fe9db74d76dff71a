import BoardSim.Proofs.Peripheral.Reach

/-!
# The register operations of an access

An access of any width and alignment is a list of register reads and writes, of a whole word each.
The list is written down by the access itself, run on a device that records what is done to it, and
`foldl_perform_operations` says that it accounts for the whole change.
-/

namespace BoardSim.Peripheral

inductive Operation where
  | read (i : Nat)
  | write (i : Nat) (word : UInt32)
deriving DecidableEq

/-- A device with the operations on its registers so far. -/
structure Recorded (δ : Type) where
  device : δ
  operations : List Operation := []

variable {δ : Type} [Peripheral δ]

namespace Recorded

instance : Peripheral (Recorded δ) where
  layout r := layout r.device
  held r i := held r.device i
  put r i word := { r with device := put r.device i word }
  fetch r i := ((fetch r.device i).1,
    { device := (fetch r.device i).2, operations := r.operations ++ [.read i] })
  commit r i word :=
    { device := commit r.device i word, operations := r.operations ++ [.write i word] }

/-- Recording changes nothing that is recorded. -/
theorem hom_device : Hom (device (δ := δ)) where
  layout _ := rfl
  held _ _ := rfl
  put _ _ _ := rfl
  fetch _ _ := rfl
  commit _ _ _ := rfl

end Recorded

def perform (d : δ) : Operation → δ
  | .read i => settle (fetch d i).2 i
  | .write i word => commit d i word

/-- A read action after the fetch is part of the read. -/
theorem Recorded.settle_eq (r : Recorded δ) (i : Nat) :
    settle r i = { r with device := settle r.device i } := by
  have same : (layout r : Layout) = layout r.device := rfl
  unfold settle
  rw [same]
  split <;> rfl

section
variable (d : δ) (offset : UInt64) (size : AccessSize) (direction : Direction) (payload : UInt64)

def operations : List Operation :=
  (access ({ device := d } : Recorded δ) offset size direction payload).2.operations

theorem access_recorded : (access ({ device := d } : Recorded δ) offset size direction payload).2 =
    ⟨(access d offset size direction payload).2, operations d offset size direction payload⟩ := by
  have same := Recorded.hom_device.access ({ device := d } : Recorded δ) offset size direction
    payload
  rw [same]
  rfl

/-- The operations lead to the device that the access leaves. -/
theorem foldl_perform_operations :
    (operations d offset size direction payload).foldl perform d =
      (access d offset size direction payload).2 := by
  have kept : KeptAt (Touches offset size) fun r : Recorded δ =>
      r.operations.foldl perform d = r.device := by
    constructor
    · intro r o _ h
      unfold Peripheral.read
      split
      · exact h
      · next i _ =>
        show (settle (fetch r i).2 i).operations.foldl perform d = (settle (fetch r i).2 i).device
        rw [Recorded.settle_eq]
        show (r.operations ++ [Operation.read i]).foldl perform d = perform r.device (.read i)
        rw [List.foldl_append, h]
        rfl
    · intro r o word _ h
      unfold Peripheral.write
      split
      · exact h
      · next i _ =>
        show (r.operations ++ [Operation.write i word]).foldl perform d =
          perform r.device (.write i word)
        rw [List.foldl_append, h]
        rfl
  have holds := kept.access (d := { device := d }) rfl direction payload
  rwa [access_recorded] at holds

/-- A write of a whole word is a write of the register there. -/
theorem operations_write_word {i : Nat} (aligned : offset % 4 = 0)
    (found : (layout d).indexOf? offset = some i) :
    operations d offset .word .write payload = [.write i payload.toUInt32] := by
  rw [operations, access_write_word aligned]
  show (write ({ device := d } : Recorded δ) offset payload.toUInt32).operations = _
  have here : (layout ({ device := d } : Recorded δ)).indexOf? offset = some i := found
  rw [write, here]
  rfl

/-- What an access makes of a device is put together from what each operation makes of it. -/
theorem access_induction {R : δ → δ → List Operation → Prop} (none : ∀ d, R d d [])
    (first : ∀ d e operation rest, R (perform d operation) e rest → R d e (operation :: rest)) :
    R d (access d offset size direction payload).2
      (operations d offset size direction payload) := by
  have run (list : List Operation) (d : δ) : R d (list.foldl perform d) list := by
    induction list generalizing d with
    | nil => exact none d
    | cons operation rest ih => exact first _ _ _ _ (ih _)
  have whole := run (operations d offset size direction payload) d
  rwa [foldl_perform_operations] at whole

end

end BoardSim.Peripheral
