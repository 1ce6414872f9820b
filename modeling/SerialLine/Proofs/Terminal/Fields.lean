import SerialLine.Terminal.Codec
import SerialLine.Terminal.Linux

/-!
# SerialLine.Proofs.Terminal.Fields — edited flag words, seen through a mask

Every edit of a flag word clears some bits and then sets some. Seen through a mask, such an edit
does one of two things: it replaces the field, if it clears all of the mask, or it leaves the
field alone, if it neither clears nor sets any of it. What the codec reads from a word is a
function of the word under `decodedControl` or `decodedInput`, so these two rules are all that
is needed to follow a word through the codec.
-/

namespace SerialLine

namespace Flags

theorem edit_and (w off on mask : Flags) :
    (w.without off ||| on) &&& mask = w &&& (mask &&& ~~~off) ||| on &&& mask := by
  apply UInt32.toBitVec_inj.1
  simp only [without, UInt32.toBitVec_and, UInt32.toBitVec_or, UInt32.toBitVec_not,
    BitVec.and_or_distrib_right, BitVec.and_assoc, BitVec.and_comm mask.toBitVec]

theorem not_within_self (mask : Flags) : mask &&& ~~~mask = 0 := by
  apply UInt32.toBitVec_inj.1
  simp

/-- An edit that clears the whole field replaces it. -/
theorem edit_replaces {off mask : Flags} (h : mask &&& ~~~off = 0) (w on : Flags) :
    (w.without off ||| on) &&& mask = on &&& mask := by
  rw [edit_and, h, UInt32.and_zero, UInt32.zero_or]

/-- An edit that clears nothing of the field adds to it. -/
theorem edit_adds {off mask : Flags} (h : mask &&& ~~~off = mask) (w on : Flags) :
    (w.without off ||| on) &&& mask = w &&& mask ||| on &&& mask := by
  rw [edit_and, h]

/-- A field within a mask can be read through the mask. -/
theorem and_of_within {field mask : Flags} (h : mask &&& field = field) (w : Flags) :
    w &&& mask &&& field = w &&& field := by
  rw [UInt32.and_assoc, h]

theorem meets_of_within (field mask : Flags) (h : mask &&& field = field) (w : Flags) :
    (w &&& mask).meets field = w.meets field := by
  rw [meets, meets, and_of_within h]

/-- The control bits that a configuration is read from on Linux. -/
def decodedControl : Flags := framing ||| CMSPAR ||| CRTSCTS

/-- The input bits that a configuration is read from. -/
def decodedInput : Flags := softwareFlow ||| PARMRK ||| IMAXBEL

end Flags

end SerialLine
