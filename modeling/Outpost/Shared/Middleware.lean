import Mathlib.Init

/-!
# Layers around a handler

A handler ends with a reply or with a panic; a layer wraps a handler. A request that an inner layer
has changed is passed inwards only.
-/

namespace Outpost.Middleware

inductive Outcome (Res : Type) where
  | replied (response : Res)
  | panicked
deriving DecidableEq

abbrev Handler (Req Res σ : Type) := Req → σ → Outcome Res × σ

abbrev Layer (Req Res σ : Type) := Handler Req Res σ → Handler Req Res σ

variable {Req Res σ τ : Type}

def chain (layers : List (Layer Req Res σ)) (handler : Handler Req Res σ) : Handler Req Res σ :=
  layers.foldr (fun layer next => layer next) handler

def rewrite (f : Req → Req) : Layer Req Res σ := fun next r => next (f r)

def recover (res : Res) : Layer Req Res σ := fun next r s =>
  match next r s with
  | (.panicked, s') => (.replied res, s')
  | replied => replied

def afterwards (f : Req → Res → σ → σ) : Layer Req Res σ := fun next r s =>
  match next r s with
  | (.replied res, s') => (.replied res, f r res s')
  | panicked => panicked

def guarded (check : Req → σ → Except Res Req × σ) : Layer Req Res σ := fun next r s =>
  match check r s with
  | (.error res, s') => (.replied res, s')
  | (.ok r', s') => next r' s'

def focus (get : τ → σ) (set : τ → σ → τ) (handler : Handler Req Res σ) : Handler Req Res τ :=
  fun r s => ((handler r (get s)).1, set s (handler r (get s)).2)

variable {handler next : Handler Req Res σ} {r r' : Req} {s s₁ s₂ : σ} {res : Res}

theorem recover_replied (res' : Res) (h : next r s = (.replied res, s₁)) :
    recover res' next r s = (.replied res, s₁) := by
  unfold recover
  rw [h]

theorem afterwards_replied (f : Req → Res → σ → σ) (h : next r s = (.replied res, s₁)) :
    afterwards f next r s = (.replied res, f r res s₁) := by
  unfold afterwards
  rw [h]

theorem guarded_passed {check : Req → σ → Except Res Req × σ} (hcheck : check r s = (.ok r', s₁)) :
    guarded check next r s = next r' s₁ := by
  unfold guarded
  rw [hcheck]

theorem focus_replied {get : τ → σ} {set : τ → σ → τ} {t : τ}
    (h : handler r (get t) = (.replied res, s₁)) :
    focus get set handler r t = (.replied res, set t s₁) := by
  unfold focus
  rw [h]

end Outpost.Middleware
