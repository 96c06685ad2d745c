import DexRefs.Log.Record

/-!
How computations that log end.  What they log depends on the operation under way, but none looks at
the records before, so that its outcome can be told apart from them.
-/

set_option autoImplicit false

namespace DexRefs

namespace Logged

variable {ε α β : Type}

/-- Whatever was logged before, the computation ends with the outcome `o`. -/
structure Ends (x : Logged ε α) (o : Except ε α) : Prop where
  run : ∀ t, ∃ u, x t = match o with
    | .ok a => .ok a u
    | .error e => .error e u

namespace Ends

theorem eq_of_run {x : Logged ε α} {o : Except ε α} (h : Ends x o) {t u : Trace} {a : α}
    (hrun : x t = .ok a u) : o = .ok a := by
  obtain ⟨v, hv⟩ := h.run t
  have he := hv.symm.trans hrun
  cases o <;> cases he
  rfl

theorem unique {x : Logged ε α} {o o' : Except ε α} (h : Ends x o) (h' : Ends x o') : o = o' := by
  obtain ⟨u, hu⟩ := h.run {}
  obtain ⟨u', hu'⟩ := h'.run {}
  have he := hu.symm.trans hu'
  cases o <;> cases o' <;> cases he <;> rfl

end Ends

/-- The computation ends with the outcome `o`, with records after those before that nothing but the
operation under way decides, and leaves that operation as it is. -/
structure Traces (x : Logged ε α) (o : Except ε α) (rs : Option String → List Record) : Prop where
  run : ∀ t, ∃ u, (x t = match o with
    | .ok a => .ok a u
    | .error e => .error e u) ∧ u.operation = t.operation ∧
      u.records.toList = t.records.toList ++ rs t.operation

namespace Traces

variable {rs rs' : Option String → List Record}

theorem ends {x : Logged ε α} {o : Except ε α} (h : Traces x o rs) : Ends x o :=
  ⟨fun t => (h.run t).imp fun _ h => h.1⟩

/-- The records can be read off a run that starts with none. -/
theorem added {x : Logged ε α} {o : Except ε α} (h : Traces x o rs) (operation : Option String) :
    (match x { operation } with
      | .ok _ u => u
      | .error _ u => u).records.toList = rs operation := by
  obtain ⟨u, hu, -, hrs⟩ := h.run { operation }
  rw [hu]
  cases o <;> exact hrs

theorem congr {x : Logged ε α} {o : Except ε α} (h : Traces x o rs)
    (hrs : ∀ operation, rs operation = rs' operation) : Traces x o rs' :=
  funext hrs ▸ h

theorem pure (a : α) : Traces (pure a : Logged ε α) (.ok a) fun _ => [] :=
  ⟨fun t => ⟨t, rfl, rfl, by simp⟩⟩

theorem throw (e : ε) : Traces (throw e : Logged ε α) (.error e) fun _ => [] :=
  ⟨fun t => ⟨t, rfl, rfl, by simp⟩⟩

theorem note (logger : String) (level : Level) (message : String) :
    Traces (note logger level message : Logged ε Unit) (.ok ()) fun _ =>
      [{ level, logger, tool := logger, message }] :=
  ⟨fun _ => ⟨_, rfl, rfl, by simp⟩⟩

theorem log (tool : String) (level : Level) (message : String) (context : Option Value) :
    Traces (log tool level message context : Logged ε Unit) (.ok ()) fun operation =>
      [{ level, logger := tool, tool, message, operation, context }] :=
  ⟨fun _ => ⟨_, rfl, rfl, by simp⟩⟩

theorem bind_ok {x : Logged ε α} {f : α → Logged ε β} {a : α} {o : Except ε β}
    (hx : Traces x (.ok a) rs) (hf : Traces (f a) o rs') :
    Traces (x >>= f) o fun operation => rs operation ++ rs' operation := by
  refine ⟨fun t => ?_⟩
  obtain ⟨u, hu, hop, hrs⟩ := hx.run t
  obtain ⟨v, hv, hop', hrs'⟩ := hf.run u
  have hrun : (x >>= f) t = f a u := by simp only [Bind.bind, EStateM.bind, hu]
  exact ⟨v, hrun.trans hv, hop'.trans hop, by rw [hrs', hrs, hop, List.append_assoc]⟩

theorem pure_bind {f : α → Logged ε β} {a : α} {o : Except ε β} (h : Traces (f a) o rs) :
    Traces (Pure.pure a >>= f) o rs :=
  bind_ok (pure a) h

theorem bind_error {x : Logged ε α} {f : α → Logged ε β} {e : ε} (hx : Traces x (.error e) rs) :
    Traces (x >>= f) (.error e) rs := by
  refine ⟨fun t => ?_⟩
  obtain ⟨u, hu, hop, hrs⟩ := hx.run t
  exact ⟨u, by simp only [Bind.bind, EStateM.bind, hu], hop, hrs⟩

/-- The second computation only has to be followed where the first gives a value. -/
theorem bind {x : Logged ε α} {f : α → Logged ε β} {o : Except ε α} {g : α → Except ε β}
    (hx : Traces x o rs) (hf : ∀ a, o = .ok a → ∃ rs', Traces (f a) (g a) rs') :
    ∃ rs', Traces (x >>= f) (o >>= g) rs' := by
  cases o with
  | ok a =>
    obtain ⟨rs', ha⟩ := hf a rfl
    exact ⟨_, hx.bind_ok ha⟩
  | error e => exact ⟨_, hx.bind_error⟩

/-- The records of an operation tell it, and the one before is under way again after it. -/
theorem within {x : Logged ε α} {o : Except ε α} (operation : String) (hx : Traces x o rs) :
    Traces (within operation x) o fun _ => rs (some operation) := by
  refine ⟨fun t => ?_⟩
  obtain ⟨u, hu, -, hrs⟩ := hx.run { t with operation := some operation }
  refine ⟨{ u with operation := t.operation }, ?_, rfl, hrs⟩
  cases o <;> simp only [Logged.within, hu]

theorem followedBy {x : Logged ε α} {last : Logged ε Unit} {o : Except ε α} (hx : Traces x o rs)
    (hl : Traces last (.ok ()) rs') :
    Traces (followedBy x last) o fun operation => rs operation ++ rs' operation := by
  refine ⟨fun t => ?_⟩
  obtain ⟨u, hu, hop, hrs⟩ := hx.run t
  obtain ⟨v, hv, hop', hrs'⟩ := hl.run u
  refine ⟨v, ?_, hop'.trans hop, by rw [hrs', hrs, hop, List.append_assoc]⟩
  cases o <;> simp only [Logged.followedBy, hu, Bind.bind, EStateM.bind, hv] <;> rfl

theorem attempt {x : Logged ε α} {o : Except ε α} (hx : Traces x o rs) :
    Traces (attempt x : Logged ε (Except ε α)) (.ok o) rs := by
  refine ⟨fun t => ?_⟩
  obtain ⟨u, hu, hrs⟩ := hx.run t
  refine ⟨u, ?_, hrs⟩
  cases o <;> simp only [Logged.attempt, hu]

end Traces

/-- The computation ends with the outcome `o`, with these records after those before. -/
structure Adds (x : Logged ε α) (o : Except ε α) (rs : List Record) : Prop where
  run : ∀ t, ∃ u, (x t = match o with
    | .ok a => .ok a u
    | .error e => .error e u) ∧ u.operation = t.operation ∧
      u.records.toList = t.records.toList ++ rs

namespace Adds

variable {rs : List Record}

theorem iff_traces {x : Logged ε α} {o : Except ε α} : Adds x o rs ↔ Traces x o fun _ => rs :=
  ⟨fun h => ⟨h.run⟩, fun h => ⟨h.run⟩⟩

theorem ends {x : Logged ε α} {o : Except ε α} (h : Adds x o rs) : Ends x o :=
  (iff_traces.mp h).ends

end Adds

end Logged

end DexRefs
