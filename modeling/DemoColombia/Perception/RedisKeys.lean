import DemoColombia.DataStructures.Lists
import DemoColombia.Perception.Frames
import Mathlib

/-! # Redis keys (`send2redisTask`)

A frame is stored under its camera id and its number, joined by an underscore. A camera id may hold
underscores, digits and signs itself; the number holds no underscore, so the last one is the
separator, and the number can be read off behind it. -/

namespace DemoColombia.Perception

/-- The text `send2redisTask` formats for the key, before the buffer cuts it. -/
def redisText (camera_id : String) (frame_num : Int32) : String :=
  c_str camera_id ++ "_" ++ toString frame_num.toInt

/-- The text fits the buffer of the key, with its NUL. -/
def KeyFits (camera_id : String) (frame_num : Int32) : Prop :=
  (redisText camera_id frame_num).toUTF8.toList.length < 1024

instance (camera_id : String) (frame_num : Int32) : Decidable (KeyFits camera_id frame_num) :=
  inferInstanceAs (Decidable (_ < _))

/-- A key that fits is the whole text. -/
theorem redis_key_of_fits {camera_id : String} {frame_num : Int32}
    (h : KeyFits camera_id frame_num) :
    redis_key camera_id frame_num = (redisText camera_id frame_num).toUTF8.toList :=
  List.take_of_length_le (Nat.le_of_lt_succ h)

/-- A text, an underscore and a number are told apart, whatever the text holds. -/
theorem append_underscore_inj {a b : String} {n m : ℤ} :
    a ++ "_" ++ toString n = b ++ "_" ++ toString m ↔ a = b ∧ n = m := by
  -- no sign and no digit is an underscore
  have hnum : ∀ n : ℤ, '_' ∉ (toString n).toList := by
    intro n hmem
    rcases eq_minus_or_isDigit_of_mem hmem with h | h
    · exact absurd h (by decide)
    · exact absurd h (by decide)
  have hlist : ∀ (a : String) (n : ℤ),
      (a ++ "_" ++ toString n).toList = a.toList ++ '_' :: (toString n).toList := by
    intro a n
    rw [String.toList_append, String.toList_append, List.append_assoc]
    rfl
  rw [← String.toList_inj, hlist, hlist, append_cons_inj_of_notMem_right (hnum n) (hnum m),
    String.toList_inj, String.toList_inj, Int.toString_eq_repr, Int.toString_eq_repr, Int.repr_inj]

/-- **Redis keys identify frames.** For camera ids without NUL, of any length and with any other
characters, and any frame numbers, the keys of two frames that fit the buffer are equal only if the
frames have the same camera id and the same number. -/
theorem redis_key_inj {camera_id camera_id' : String} {frame_num frame_num' : Int32}
    (hid : '\x00' ∉ camera_id.toList) (hid' : '\x00' ∉ camera_id'.toList)
    (hfits : KeyFits camera_id frame_num) (hfits' : KeyFits camera_id' frame_num') :
    redis_key camera_id frame_num = redis_key camera_id' frame_num' ↔
      camera_id = camera_id' ∧ frame_num = frame_num' := by
  have hkeys : redis_key camera_id frame_num = redis_key camera_id' frame_num' ↔
      redisText camera_id frame_num = redisText camera_id' frame_num' :=
    g_snprintf_inj (Nat.le_of_lt_succ hfits) (Nat.le_of_lt_succ hfits')
  rw [hkeys, redisText, redisText, append_underscore_inj, c_str_eq_self.mpr hid,
    c_str_eq_self.mpr hid', Int32.toInt_inj]

/-- Two cameras whose ids differ in what looks like a frame number. -/
theorem redis_key_inj_cameras : redis_key "cam_1" (-2) ≠ redis_key "cam" 1 := by
  intro h
  have hinj := (redis_key_inj (by decide) (by decide) (by decide +kernel) (by decide +kernel)).mp h
  exact absurd hinj.1 (by decide)

end DemoColombia.Perception
