import DexRefs.Command.Run
import DexRefs.Proofs.ShownResults

/-!
What the command tells on a screen.  Events are shown one after the other up to the first that
cannot be shown, and what has been told before has no part in what follows.
-/

set_option autoImplicit false

namespace DexRefs

namespace Render

variable {screen : Screen} {es es' : List Event} {t t' : String} {f : Fault}

theorem text_nil : text screen [] = .ok "" :=
  rfl

theorem text_cons (e : Event) (es : List Event) : text screen (e :: es) =
    eventText screen e >>= fun t => text screen es >>= fun t' => .ok (t ++ t') := by
  unfold text
  rw [List.mapM_cons]
  cases eventText screen e with
  | error f => rfl
  | ok t =>
    change ((es.mapM (eventText screen) >>= fun ts => .ok (t :: ts)).map String.join) = _
    cases es.mapM (eventText screen) with
    | error f => rfl
    | ok ts => exact congrArg Except.ok (String.join_cons ..)

theorem text_append (es es' : List Event) : text screen (es ++ es') =
    text screen es >>= fun t => text screen es' >>= fun t' => .ok (t ++ t') := by
  induction es with
  | nil =>
    rw [List.nil_append, text_nil]
    change _ = text screen es' >>= fun t' => .ok ("" ++ t')
    cases text screen es' with
    | error f => rfl
    | ok t' => simp [bind, Except.bind]
  | cons e es ih =>
    rw [List.cons_append, text_cons, text_cons, ih]
    cases eventText screen e with
    | error f => rfl
    | ok t =>
      cases text screen es with
      | error f => rfl
      | ok t' =>
        cases text screen es' with
        | error f => rfl
        | ok t'' => simp [bind, Except.bind, String.append_assoc]

theorem text_append_of_ok (h : text screen es = .ok t) (h' : text screen es' = .ok t') :
    text screen (es ++ es') = .ok (t ++ t') := by
  rw [text_append, h, h']
  rfl

theorem exists_text_of_displayed (h : ∀ e ∈ es, Displayed screen e) :
    ∃ t, text screen es = .ok t :=
  (exists_text screen).mpr h

end Render

namespace Command

variable {screen : Render.Screen} {calls : Nat} {host : Host} {clock : Clock} {o : Options}
  {out : Outcome} {es es' : List Event} {t : String}

def Host.ofScreen (screen : Render.Screen) (calls : Nat) : Host where
  display := Render.eventText screen
  calls

namespace Outcome

def shown (es : List Event) (t : String) (out : Outcome) : Outcome :=
  { out with events := out.events ++ es, output := out.output ++ t }

/-- The outcome where this was shown before. -/
def after (es : List Event) (t : String) (out : Outcome) : Outcome :=
  { out with events := es ++ out.events, output := t ++ out.output }

@[simp] theorem after_fault : (out.after es t).fault = out.fault := rfl

@[simp] theorem after_exitCode : (out.after es t).exitCode = out.exitCode := rfl

@[simp] theorem after_files : (out.after es t).files = out.files := rfl

theorem tell_of_text (h : Render.text screen es = .ok t) (out : Outcome) :
    out.tell (Host.ofScreen screen calls) es = out.shown es t := by
  induction es generalizing out t with
  | nil =>
    cases h
    simp [tell, shown]
  | cons e es ih =>
    rw [Render.text_cons] at h
    obtain ⟨a, ha, h⟩ := bind_eq_ok.mp h
    obtain ⟨b, hb, h⟩ := bind_eq_ok.mp h
    cases h
    have hdisplay : (Host.ofScreen screen calls).display e = .ok a := ha
    rw [tell, hdisplay]
    dsimp only
    rw [ih hb]
    simp [shown, String.append_assoc]

/-- With an event that cannot be shown the outcome ends, and those in front of it are shown. -/
theorem tell_of_fault {f : Render.Fault} (h : Render.text screen es = .error f) (out : Outcome) :
    ∃ es' t, Render.text screen es' = .ok t ∧
      out.tell (Host.ofScreen screen calls) es = (out.shown es' t).fail (.display f) := by
  induction es generalizing out with
  | nil => cases h
  | cons e es ih =>
    rw [Render.text_cons] at h
    rw [tell]
    cases he : Render.eventText screen e with
    | error g =>
      have hdisplay : (Host.ofScreen screen calls).display e = .error g := he
      rw [he] at h
      cases h
      rw [hdisplay]
      exact ⟨[], "", rfl, by simp [shown]⟩
    | ok a =>
      have hdisplay : (Host.ofScreen screen calls).display e = .ok a := he
      rw [he] at h
      rw [hdisplay]
      have hrest : Render.text screen es = .error f := by
        cases hes : Render.text screen es with
        | error g =>
          rw [hes] at h
          exact h
        | ok b =>
          rw [hes] at h
          cases h
      obtain ⟨es', t, ht, heq⟩ := ih hrest (out.shown [e] a)
      refine ⟨e :: es', a ++ t, ?_, ?_⟩
      · rw [Render.text_cons, he, ht]
        rfl
      · change (out.shown [e] a).tell _ es = _
        rw [heq]
        simp [shown, fail, String.append_assoc]

theorem tell_after (out : Outcome) (es' : List Event) : (out.after es t).tell host es' =
    (out.tell host es').after es t := by
  induction es' generalizing out with
  | nil => rfl
  | cons e es' ih =>
    rw [tell, tell]
    split
    · rfl
    next text _ =>
      rw [← ih]
      simp [after, String.append_assoc]

theorem andThen_after {next : Outcome → Outcome}
    (h : ∀ out, next (out.after es t) = (next out).after es t) (out : Outcome) :
    (out.after es t).andThen next = (out.andThen next).after es t := by
  unfold andThen
  rw [after_fault]
  split
  · rfl
  · exact h out

end Outcome

/-! ### The command after what was told -/

theorem report_after (members : Bool) (r : ScanResult) (out : Outcome) :
    report host clock o members r (out.after es t) =
      (report host clock o members r out).after es t := by
  unfold report
  split
  · rfl
  · rfl
  dsimp only [Outcome.after_files]
  split
  · rfl
  next files _ => exact Outcome.tell_after { out with files } _

theorem deliver_after (members : Bool) (r : ScanResult) (out : Outcome) :
    deliver host clock o members r (out.after es t) =
      (deliver host clock o members r out).after es t := by
  unfold deliver
  split
  · simp [Outcome.after, String.append_assoc]
  · exact Outcome.tell_after out _

theorem conclude_after (members : Bool) (r : ScanResult) (out : Outcome) :
    conclude host clock o members r (out.after es t) =
      (conclude host clock o members r out).after es t := by
  have hdeliver (out : Outcome) : deliver host clock o members r (out.after es t) =
      (deliver host clock o members r out).after es t := deliver_after members r out
  unfold conclude
  rw [← Outcome.andThen_after (report_after members r), ← hdeliver]
  rfl

/-! ### Messages -/

theorem displayed_partialWarning (r : ScanResult) :
    ∀ e ∈ partialWarning r, Render.Displayed screen e := by
  have hdecimal (n : Nat) : '[' ∉ (decimal n).toList := not_mem_decimal (by decide) n
  unfold partialWarning
  split
  · simp
  · refine List.forall_mem_singleton.mpr (Render.displayed_warning (Render.shows_of_plain ?_))
    simp [hdecimal]

theorem displayed_faultEvent (f : ScanFault) : Render.Displayed screen (faultEvent f) :=
  Render.displayed_error (Render.shows_escape _)

theorem displayed_settings (host : Host) (files : FileTree) (o : Options) :
    ∀ e ∈ (settingsOf host files o).2, Render.Displayed screen e := by
  have hwarning (f : SettingsFault) : Render.Displayed screen (settingsWarning f) :=
    Render.displayed_warning (Render.shows_escape _)
  unfold settingsOf
  split
  · simp
  · split
    · simp
    · dsimp only
      split <;> simp [hwarning]

end Command

end DexRefs
