import Playbook.Outcome.Check
import Mathlib.Logic.Relator

/-!
Results apart from their times. A check looks at the clock for one thing only, the time stamp that
an error lacks; so at any two times it finds the same issues, or passes results that differ in
their times at most.
-/

namespace Playbook

open Relator

/-- The error without the time at which it happened. -/
def CommandError.timeless (e : CommandError) : CommandError :=
  { e with context := { e.context with timestamp := 0 } }

/-- The result without the time at which it was made and the time that it took. -/
def CommandResult.timeless (r : CommandResult) : CommandResult :=
  { r with duration := 0, error := r.error.map CommandError.timeless }

namespace Schema.Check

variable {α β γ δ : Type} {R : α → β → Prop} {S : γ → δ → Prop}

/-- Two checks find the same issues, or pass values that are related. -/
inductive Alike (R : α → β → Prop) : Check α → Check β → Prop
  | pass {a : α} {b : β} (h : R a b) : Alike R (.pass a) (.pass b)
  | fail (issues : List Issue) : Alike R (.fail issues) (.fail issues)

namespace Alike

theorem same {R : α → α → Prop} (hsame : ∀ a, R a a) (x : Check α) : Alike R x x := by
  cases x with
  | pass a => exact .pass (hsame a)
  | fail issues => exact .fail issues

theorem refl (x : Check α) : Alike Eq x x := same (fun _ => rfl) x

theorem map {x : Check α} {y : Check β} (h : Alike R x y) {f : α → γ} {g : β → δ}
    (hfg : (R ⇒ S) f g) : Alike S (x.map f) (y.map g) := by
  cases h with
  | pass h => exact .pass (hfg h)
  | fail issues => exact .fail issues

theorem fmap {x : Check α} {y : Check β} {f : α → γ} {g : β → δ} (hfg : (R ⇒ S) f g)
    (h : Alike R x y) : Alike S (f <$> x) (g <$> y) :=
  h.map hfg

theorem seq {x : Check α} {y : Check β} {f : Check (α → γ)} {g : Check (β → δ)}
    (hfg : Alike (R ⇒ S) f g) (h : Alike R x y) : Alike S (f <*> x) (g <*> y) := by
  cases hfg with
  | pass hfg =>
    cases h with
    | pass h => exact .pass (hfg h)
    | fail issues => exact .fail issues
  | fail issues =>
    cases h with
    | pass h => exact .fail issues
    | fail others => exact .fail (issues ++ others)

theorem under {x : Check α} {y : Check β} (h : Alike R x y) (s : Step) :
    Alike R (x.under s) (y.under s) := by
  cases h with
  | pass h => exact .pass h
  | fail issues => exact .fail _

theorem andThen {x : Check α} {f : α → Check γ} {g : α → Check δ}
    (h : ∀ a, Alike S (f a) (g a)) : Alike S (x.andThen f) (x.andThen g) := by
  cases x with
  | pass a => exact h a
  | fail issues => exact .fail issues

theorem optional {check : Value → Check α} {check' : Value → Check β}
    (h : ∀ v, Alike R (check v) (check' v)) (v : Value) :
    Alike (Option.Rel R) (Schema.optional check v) (Schema.optional check' v) := by
  cases v with
  | null => exact .pass .none
  | _ => exact (h _).map fun _ _ hab => .some hab

theorem withDefault {check : Value → Check α} {check' : Value → Check β}
    (h : ∀ v, Alike R (check v) (check' v)) {a : α} {b : β} (hdefault : R a b)
    (entries : Entries) (keys : Spellings) :
    Alike R (Schema.withDefault entries keys check a)
      (Schema.withDefault entries keys check' b) := by
  unfold Schema.withDefault whenGiven
  cases find? entries keys with
  | none => exact .pass hdefault
  | some found =>
    have hfound : Alike (Option.Rel R) (((check found.2).under (.key found.1)).map some)
        (((check' found.2).under (.key found.1)).map some) :=
      ((h found.2).under (.key found.1)).map fun _ _ hab => .some hab
    refine hfound.map ?_
    intro found found' hrel
    cases hrel with
    | some hab => exact hab
    | none => exact hdefault

end Alike

end Schema.Check

open Schema Schema.Check

/-- Two error contexts name the same address. -/
def ErrorContext.SameUrl (c d : ErrorContext) : Prop := c.url = d.url

def CommandError.Timelessly (e f : CommandError) : Prop := e.timeless = f.timeless

def CommandResult.Timelessly (r s : CommandResult) : Prop := r.timeless = s.timeless

theorem ErrorContext.check_alike (now now' : Int) (lookup : Lookup) (v : Value) :
    Alike SameUrl (ErrorContext.check now lookup v) (ErrorContext.check now' lookup v) := by
  have hentries (entries : Entries) :
      Alike SameUrl (ofEntries now entries) (ofEntries now' entries) := by
    have htime : Alike (fun _ _ => True) (withDefault entries ["timestamp"] lenientInt now)
        (withDefault entries ["timestamp"] lenientInt now') :=
      .withDefault (fun v => .same (fun _ => trivial) (lenientInt v)) trivial entries _
    have hmake : (Eq ⇒ (fun _ _ => True) ⇒ Eq ⇒ SameUrl)
        (fun url timestamp (_ : Unit) => ErrorContext.mk url timestamp)
        (fun url timestamp (_ : Unit) => ErrorContext.mk url timestamp) :=
      fun _ _ hurl _ _ _ _ _ _ => hurl
    exact ((Alike.fmap hmake (.refl _)).seq htime).seq (.refl _)
  unfold ErrorContext.check
  split
  · exact .pass rfl
  · exact .andThen hentries

theorem CommandError.check_alike (now now' : Int) (lookup : Lookup) (v : Value) :
    Alike Timelessly (CommandError.check now lookup v) (CommandError.check now' lookup v) := by
  have hentries (entries : Entries) :
      Alike Timelessly (ofEntries now lookup entries) (ofEntries now' lookup entries) := by
    have hcontext : Alike ErrorContext.SameUrl
        (withDefault entries ["context"] (ErrorContext.check now lookup) ⟨"", now⟩)
        (withDefault entries ["context"] (ErrorContext.check now' lookup) ⟨"", now'⟩) :=
      .withDefault (ErrorContext.check_alike now now' lookup)
        (show ErrorContext.SameUrl ⟨"", now⟩ ⟨"", now'⟩ from rfl) entries _
    have hmake : (Eq ⇒ Eq ⇒ Eq ⇒ ErrorContext.SameUrl ⇒ Eq ⇒ Eq ⇒ Timelessly)
        (fun type message selector context suggestions (_ : Unit) =>
          CommandError.mk type message selector context suggestions)
        (fun type message selector context suggestions (_ : Unit) =>
          CommandError.mk type message selector context suggestions) := by
      rintro type _ rfl message _ rfl selector _ rfl context other hurl suggestions _ rfl _ _ _
      simp only [Timelessly, timeless]
      rw [hurl]
    exact (((((Alike.fmap hmake (.refl _)).seq (.refl _)).seq (.refl _)).seq hcontext).seq
      (.refl _)).seq (.refl _)
  unfold CommandError.check
  split
  · exact .pass rfl
  · exact .andThen hentries

/-- A value is checked alike at any two times. -/
theorem CommandResult.check_alike (now now' : Int) (lookup : Lookup) (v : Value) :
    Alike Timelessly (CommandResult.check now lookup v) (CommandResult.check now' lookup v) := by
  have hentries (entries : Entries) :
      Alike Timelessly (ofEntries now lookup entries) (ofEntries now' lookup entries) := by
    have herror : Alike (Option.Rel CommandError.Timelessly)
        (withDefault entries ["error"] (optional (CommandError.check now lookup)) none)
        (withDefault entries ["error"] (optional (CommandError.check now' lookup)) none) :=
      .withDefault (.optional (CommandError.check_alike now now' lookup)) .none entries _
    have hmake : (Eq ⇒ Eq ⇒ Eq ⇒ Eq ⇒ Option.Rel CommandError.Timelessly ⇒ Eq ⇒ Eq ⇒ Timelessly)
        (fun command index success duration error data (_ : Unit) =>
          CommandResult.mk command index success duration error data)
        (fun command index success duration error data (_ : Unit) =>
          CommandResult.mk command index success duration error data) := by
      rintro command _ rfl index _ rfl success _ rfl duration _ rfl error other herror data _ rfl
        _ _ _
      have hsame : error.map CommandError.timeless = other.map CommandError.timeless := by
        cases herror with
        | some h => exact congrArg some h
        | none => rfl
      simp only [Timelessly, timeless, hsame]
    exact ((((((Alike.fmap hmake (.refl _)).seq (.refl _)).seq (.refl _)).seq (.refl _)).seq
      herror).seq (.refl _)).seq (.refl _)
  unfold CommandResult.check
  split
  · exact .pass rfl
  · exact .andThen hentries

end Playbook
