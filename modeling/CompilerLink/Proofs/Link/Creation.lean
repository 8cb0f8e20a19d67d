import CompilerLink.Link.Basic

/-! # Fresh links

What a link is like before anything has been asked of it. -/

namespace CompilerLink.Link

variable {η : Type}

/-- A link as it is built, with counters of its own. -/
def fresh (s : Settings) (parts : Parts η) : Link η where
  settings := s
  host := parts.host
  events := EventLog.ofSettings s parts.console
  crash := Crash.Log.ofSettings s parts.processId
  counters := Counter.Registry.empty s.counterSize s.excludeCompiler
  loader := Library.Loader.ofSettings s parts.opener
  endpoints := Endpoints.create s.nativeLibrary

/-- `create` succeeds unless the counters are too many for any address space. -/
theorem create_value (s : Settings) (parts : Parts η) :
    (create s parts).value =
      if s.counterSize < Counter.Registry.sizeLimit then .ok (fresh s parts)
      else .error .capacityOverflow := by
  by_cases hsize : s.counterSize < Counter.Registry.sizeLimit
  · simp only [create, Counter.Registry.create, if_pos hsize]
    rfl
  · simp only [create, Counter.Registry.create, if_neg hsize]

/-- A link that `create` has built is `fresh`. -/
theorem eq_fresh {s : Settings} {parts : Parts η} {link : Link η}
    (hlink : (create s parts).value = .ok link) : link = fresh s parts := by
  rw [create_value] at hlink
  split at hlink
  · exact (Except.ok.inj hlink).symm
  · exact nomatch hlink

end CompilerLink.Link
