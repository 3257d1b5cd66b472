import Mathlib.Logic.Function.Basic
import Dockermock.Library.Words

/-!
The flags of an interface. The kernel has a word of 32 bits and hands it out as
two signed shorts; get_if_flags makes one number of them, which is negative when
the high half is, and set_if_flag and clear_if_flag cut the changed number into
two shorts again.
-/

namespace Dockermock.Network

open Library

@[ext]
structure IfruFlags where
  low : Int16
  high : Int16
  deriving DecidableEq, Repr

def IfruFlags.word (halves : IfruFlags) : BitVec 32 := halves.high.toBitVec ++ halves.low.toBitVec

abbrev Interfaces := String → Option IfruFlags

/-- get_if_flags; nothing where ioctl fails -/
def getIfFlags (interfaces : Interfaces) (name : String) : Option Int :=
  (interfaces name).map fun (arr : IfruFlags) =>
    Int.lor (Int.land arr.low.toInt 0xFFFF) (arr.high.toInt <<< (16 : Nat))

/-- The request that is filled in for SIOCSIFFLAGS. A c_short keeps the low 16 bits. -/
def ifruOf (flags : Int) : IfruFlags :=
  ⟨.ofInt (Int.land flags 0xFFFF), .ofInt (Int.land (flags >>> (16 : Nat)) 0xFFFF)⟩

def setIfFlag (interfaces : Interfaces) (name : String) (flag : Int) : Option Interfaces :=
  (getIfFlags interfaces name).map fun (flags : Int) =>
    Function.update interfaces name (some (ifruOf (Int.lor flags flag)))

/-- clear_if_flag, called with a socket -/
def clearIfFlag (interfaces : Interfaces) (name : String) (flag : Int) : Option Interfaces :=
  (getIfFlags interfaces name).map fun (flags : Int) =>
    Function.update interfaces name (some (ifruOf (Int.land flags (Int.lnot flag))))

theorem lowMask_short : lowMask 16 = 0xFFFF := rfl

theorem word_injective {left right : IfruFlags} (same : left.word = right.word) : left = right := by
  obtain ⟨high, low⟩ := append_injective same
  exact IfruFlags.ext (Int16.toBitVec_inj.mp low) (Int16.toBitVec_inj.mp high)

theorem word_ifruOf (flags : Int) : (ifruOf flags).word = BitVec.ofInt 32 flags := by
  have halves := @halves_append 16 flags
  rw [lowMask_short] at halves
  rw [IfruFlags.word, ifruOf, Int16.toBitVec_ofInt, Int16.toBitVec_ofInt, halves]

theorem getIfFlags_word {interfaces : Interfaces} {name : String} {old : IfruFlags}
    (held : interfaces name = some old) :
    ∃ flags, getIfFlags interfaces name = some flags ∧ BitVec.ofInt 32 flags = old.word := by
  have joined := ofInt_join old.high.toBitVec old.low.toBitVec
  rw [lowMask_short] at joined
  rw [getIfFlags, held]
  exact ⟨_, rfl, joined⟩

theorem setIfFlag_eq {interfaces : Interfaces} {name : String} {old : IfruFlags}
    (held : interfaces name = some old) (flag : Int) :
    ∃ new, setIfFlag interfaces name flag = some (Function.update interfaces name (some new)) ∧
      new.word = old.word ||| BitVec.ofInt 32 flag := by
  obtain ⟨flags, read, word⟩ := getIfFlags_word held
  refine ⟨ifruOf (Int.lor flags flag), by rw [setIfFlag, read]; rfl, ?_⟩
  rw [word_ifruOf, ofInt_lor, word]

theorem clearIfFlag_eq {interfaces : Interfaces} {name : String} {old : IfruFlags}
    (held : interfaces name = some old) (flag : Int) :
    ∃ new, clearIfFlag interfaces name flag = some (Function.update interfaces name (some new)) ∧
      new.word = old.word &&& ~~~BitVec.ofInt 32 flag := by
  obtain ⟨flags, read, word⟩ := getIfFlags_word held
  refine ⟨ifruOf (Int.land flags (Int.lnot flag)), by rw [clearIfFlag, read]; rfl, ?_⟩
  rw [word_ifruOf, ofInt_land, ofInt_lnot, word]

structure SetsAndClears (interfaces : Interfaces) (name : String) (old : IfruFlags)
    (mask : BitVec 32) : Prop where
  sets : ∃ new,
    setIfFlag interfaces name mask.toNat = some (Function.update interfaces name (some new)) ∧
    new.word = old.word ||| mask ∧
    (∀ place, mask.getLsbD place = false → new.word.getLsbD place = old.word.getLsbD place) ∧
    -- Set once more, and cleared afterwards
    setIfFlag (Function.update interfaces name (some new)) name mask.toNat =
      some (Function.update interfaces name (some new)) ∧
    ∃ cleared, clearIfFlag (Function.update interfaces name (some new)) name mask.toNat =
      some (Function.update interfaces name (some cleared)) ∧ cleared.word = old.word &&& ~~~mask
  clears : ∃ new,
    clearIfFlag interfaces name mask.toNat = some (Function.update interfaces name (some new)) ∧
    new.word = old.word &&& ~~~mask ∧
    (∀ place, mask.getLsbD place = false → new.word.getLsbD place = old.word.getLsbD place) ∧
    clearIfFlag (Function.update interfaces name (some new)) name mask.toNat =
      some (Function.update interfaces name (some new))

theorem ofInt_toNat (mask : BitVec 32) : BitVec.ofInt 32 (mask.toNat : Int) = mask := by
  rw [BitVec.ofInt_natCast, BitVec.ofNat_toNat, BitVec.setWidth_eq]

/-- Whatever the halves are, negative ones included, exactly the bits of the mask are set or
cleared. -/
theorem setIfFlag_clearIfFlag (interfaces : Interfaces) (name : String) (old : IfruFlags)
    (held : interfaces name = some old) (mask : BitVec 32) :
    SetsAndClears interfaces name old mask := by
  constructor
  · obtain ⟨new, sets, word⟩ := setIfFlag_eq held mask.toNat
    rw [ofInt_toNat] at word
    have here := Function.update_self name (some new) interfaces
    obtain ⟨again, setsAgain, wordAgain⟩ := setIfFlag_eq here mask.toNat
    obtain ⟨cleared, clears, wordCleared⟩ := clearIfFlag_eq here mask.toNat
    -- set a second time, a mask changes nothing
    rw [ofInt_toNat, word, BitVec.or_assoc, BitVec.or_self, ← word] at wordAgain
    rw [ofInt_toNat, word] at wordCleared
    rw [Function.update_idem, word_injective wordAgain] at setsAgain
    rw [Function.update_idem] at clears
    refine ⟨new, sets, word, fun place free => ?_, setsAgain, cleared, clears, ?_⟩
    · rw [word, BitVec.getLsbD_or, free, Bool.or_false]
    · rw [wordCleared]
      apply BitVec.eq_of_getLsbD_eq
      intro place inside
      simp only [BitVec.getLsbD_and, BitVec.getLsbD_or, BitVec.getLsbD_not, inside]
      cases mask.getLsbD place <;> simp
  · obtain ⟨new, clears, word⟩ := clearIfFlag_eq held mask.toNat
    rw [ofInt_toNat] at word
    have here := Function.update_self name (some new) interfaces
    obtain ⟨again, clearsAgain, wordAgain⟩ := clearIfFlag_eq here mask.toNat
    rw [ofInt_toNat, word, BitVec.and_assoc, BitVec.and_self, ← word] at wordAgain
    rw [Function.update_idem, word_injective wordAgain] at clearsAgain
    refine ⟨new, clears, word, fun place free => ?_, clearsAgain⟩
    rw [word, BitVec.getLsbD_and, BitVec.getLsbD_not, free]
    by_cases inside : place < 32
    · simp [inside]
    · simp [BitVec.getLsbD_of_ge _ _ (Nat.le_of_not_lt inside)]

/-- The high half is negative. -/
theorem setIfFlag_clearIfFlag_negative :
    SetsAndClears (fun _ => some ⟨-32765, -2⟩) "epair0a" ⟨-32765, -2⟩ 0x00010001 :=
  setIfFlag_clearIfFlag (fun _ => some ⟨-32765, -2⟩) "epair0a" ⟨-32765, -2⟩ rfl 0x00010001

end Dockermock.Network
