import CompilerLink.Outcome

/-! # What is let out

Remarks, and the bytes on each stream, are read off emissions in order. What one operation lets out
after another is read off both, one behind the other. -/

namespace CompilerLink

/-- `remarks` of what was let out before and after are the remarks of both, in order. -/
theorem Emission.remarks_append (emitted later : List Emission) :
    Emission.remarks (emitted ++ later) = Emission.remarks emitted ++ Emission.remarks later :=
  List.filterMap_append

/-- The fold of `Stream.content` from any `start` is `start` followed by the content; `content`
itself is the case of an empty start. -/
theorem Stream.foldl_content (stream : Stream) (start : ByteArray) (emitted : List Emission) :
    emitted.foldl (fun all e =>
      match e with
      | .bytes s content => if s = stream then all ++ content else all
      | .remark _ => all) start = start ++ stream.content emitted := by
  induction emitted generalizing start with
  | nil => exact ByteArray.append_empty.symm
  | cons e emitted ih =>
    -- The first emission is folded by itself, and stands in front of the rest.
    have hfirst := ih (stream.content [e])
    rw [List.foldl_cons, ih, show stream.content (e :: emitted) = _ from hfirst,
      ← ByteArray.append_assoc]
    cases e with
    | remark d => rw [show stream.content [.remark d] = ByteArray.empty from rfl,
        ByteArray.append_empty]
    | bytes s content =>
      by_cases hs : s = stream <;> simp [Stream.content, hs]

/-- `content` of what was let out before and after is the content of both, in order. -/
theorem Stream.content_append (stream : Stream) (emitted later : List Emission) :
    stream.content (emitted ++ later) = stream.content emitted ++ stream.content later := by
  rw [content, List.foldl_append]
  exact stream.foldl_content _ later

end CompilerLink
