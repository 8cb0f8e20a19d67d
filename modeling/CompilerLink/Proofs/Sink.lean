import CompilerLink.Sink

/-! # What a sink takes

However text is cut into pieces, a sink takes the same bytes of it, by `Sink.writeAll_eq_write`, and
writing one text after the other comes to writing both at once, by `Sink.write_write`. So a sink has
what was written to it, up to its room, by `Sink.written_write`. -/

namespace CompilerLink

/-- `extract 0 n` takes all of a `ByteArray` that has at most `n` bytes. -/
theorem extract_of_size_le {b : ByteArray} {n : Nat} (h : b.size ≤ n) : b.extract 0 n = b := by
  have hall : b.extract 0 (max n b.size) = b := ByteArray.extract_zero_max_size
  rwa [Nat.max_eq_left h] at hall

namespace Sink

/-! ### One write -/

/-- `write` without a limit takes the whole text. -/
theorem write_of_unlimited {s : Sink} (hroom : s.room = none) (text : String) :
    s.write text = ({ room := none, written := s.written ++ text.toUTF8 }, true) := by
  obtain ⟨room, written⟩ := s
  obtain rfl : room = none := hroom
  rfl

/-- `write` takes a text of at most `n` bytes whole if the room is `n`, and leaves less room. -/
theorem write_of_fits {s : Sink} {n : Nat} {text : String} (hroom : s.room = some n)
    (hsize : text.toUTF8.size ≤ n) :
    s.write text =
      ({ room := some (n - text.toUTF8.size), written := s.written ++ text.toUTF8 }, true) := by
  simp only [write, hroom, if_pos hsize]

/-- `write` takes the first `n` bytes of a longer text if the room is `n`, and fails. -/
theorem write_of_not_fits {s : Sink} {n : Nat} {text : String} (hroom : s.room = some n)
    (hsize : ¬ text.toUTF8.size ≤ n) :
    s.write text =
      ({ room := some 0, written := s.written ++ text.toUTF8.extract 0 n }, false) := by
  simp only [write, hroom, if_neg hsize]

/-- `write` adds the text to `written`, or as many of its bytes as there is `room` for. -/
theorem written_write (s : Sink) (text : String) :
    (s.write text).1.written =
      s.written ++ s.room.elim text.toUTF8 fun n => text.toUTF8.extract 0 n := by
  cases hroom : s.room with
  | none => rw [write_of_unlimited hroom, Option.elim_none]
  | some n =>
    -- The case split of `write` itself.
    by_cases hsize : text.toUTF8.size ≤ n
    · rw [write_of_fits hroom hsize, Option.elim_some, extract_of_size_le hsize]
    · rw [write_of_not_fits hroom hsize, Option.elim_some]

/-- `write` answers whether the text fits into the `room`, if there is a limit. -/
theorem taken_write (s : Sink) (text : String) :
    (s.write text).2 = s.room.all fun n => text.toUTF8.size ≤ n := by
  cases hroom : s.room with
  | none => rw [write_of_unlimited hroom, Option.all_none]
  | some n =>
    by_cases hsize : text.toUTF8.size ≤ n
    · rw [write_of_fits hroom hsize, Option.all_some, decide_eq_true hsize]
    · rw [write_of_not_fits hroom hsize, Option.all_some, decide_eq_false hsize]

/-- `write ""` succeeds and leaves every sink as it is, a full one too. -/
theorem write_empty (s : Sink) : s.write "" = (s, true) := by
  have hempty : "".toUTF8 = ByteArray.empty := rfl
  obtain ⟨room, written⟩ := s
  cases room with
  | none => rw [write_of_unlimited rfl, hempty, ByteArray.append_empty]
  | some n =>
    have hfits : "".toUTF8.size ≤ n := Nat.zero_le n
    rw [write_of_fits rfl hfits, hempty, ByteArray.append_empty, ByteArray.size_empty, Nat.sub_zero]

/-- `write` leaves a sink without room as it is; whether it succeeds depends on the text. -/
theorem write_of_full {s : Sink} (hroom : s.room = some 0) (text : String) :
    (s.write text).1 = s := by
  -- Only the empty text fits, and that one changes nothing.
  by_cases hsize : text.toUTF8.size ≤ 0
  · have hempty : text = "" :=
      String.utf8ByteSize_eq_zero_iff.1 (Nat.le_zero.1 hsize)
    rw [hempty, write_empty]
  · rw [write_of_not_fits hroom hsize, ByteArray.extract_same, ByteArray.append_empty, ← hroom]

/-- A `write` that fails leaves no room, so no later `write` adds a byte. -/
theorem room_write_of_not_taken {s : Sink} {text : String} (hfails : (s.write text).2 = false) :
    (s.write text).1.room = some 0 := by
  cases hroom : s.room with
  | none =>
    rw [write_of_unlimited hroom] at hfails
    exact nomatch hfails
  | some n =>
    -- A text that fits is taken, so this one did not fit and has used up the room.
    by_cases hsize : text.toUTF8.size ≤ n
    · rw [write_of_fits hroom hsize] at hfails
      exact nomatch hfails
    · rw [write_of_not_fits hroom hsize]

/-! ### One write after the other -/

/-- `write (a ++ b)` is `write a` and, if that succeeds, `write b`. This is the lemma that all
statements on pieces of a text come from. -/
theorem write_append (s : Sink) (a b : String) :
    s.write (a ++ b) = if (s.write a).2 then (s.write a).1.write b else s.write a := by
  have hbytes : (a ++ b).toUTF8 = a.toUTF8 ++ b.toUTF8 := String.toByteArray_append
  have hsizes : (a ++ b).toUTF8.size = a.toUTF8.size + b.toUTF8.size := by
    rw [hbytes, ByteArray.size_append]
  cases hroom : s.room with
  | none =>
    rw [write_of_unlimited hroom, write_of_unlimited hroom, if_pos rfl,
      write_of_unlimited rfl, hbytes, ByteArray.append_assoc]
  | some n =>
    by_cases ha : a.toUTF8.size ≤ n
    · rw [write_of_fits hroom ha, if_pos rfl]
      -- `a` fits whole. What is left of the room decides on `b`.
      by_cases hb : b.toUTF8.size ≤ n - a.toUTF8.size
      · rw [write_of_fits hroom (by omega), write_of_fits rfl hb, hsizes, hbytes,
          ByteArray.append_assoc, Nat.sub_sub]
      · rw [write_of_not_fits hroom (by omega), write_of_not_fits rfl hb, hbytes,
          ByteArray.extract_append, extract_of_size_le ha, ByteArray.append_assoc, Nat.zero_sub]
    · -- `a` does not fit, so no byte of `b` is among the first `n`.
      have hrest : b.toUTF8.extract (0 - a.toUTF8.size) (n - a.toUTF8.size) = ByteArray.empty := by
        rw [ByteArray.extract_eq_empty_iff]
        omega
      rw [write_of_not_fits hroom ha, if_neg Bool.false_ne_true,
        write_of_not_fits hroom (by omega), hbytes, ByteArray.extract_append, hrest,
        ByteArray.append_empty]

/-- `writeAll pieces` is `write` of the joined text, whatever the pieces are. -/
theorem writeAll_eq_write (s : Sink) (pieces : List String) :
    s.writeAll pieces = s.write (String.join pieces) := by
  induction pieces generalizing s with
  | nil => exact s.write_empty.symm
  | cons piece pieces ih =>
    rw [String.join_cons, write_append, writeAll]
    -- `writeAll` goes on exactly if the piece is taken, as in `write_append`.
    split
    · rename_i s' hwrite
      rw [hwrite]
      exact ih s'
    · rename_i s' hwrite
      rw [hwrite]
      rfl

/-- Two calls of `write`, whatever they answer, leave the sink that `write (a ++ b)` leaves. -/
theorem write_write (s : Sink) (a b : String) :
    ((s.write a).1.write b).1 = (s.write (a ++ b)).1 := by
  rw [write_append]
  -- If `a` was not taken whole, the sink is full and ignores `b`.
  cases htaken : (s.write a).2 with
  | true => rfl
  | false => exact write_of_full (room_write_of_not_taken htaken) b

end Sink

end CompilerLink
