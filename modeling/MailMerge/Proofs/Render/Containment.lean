/-
# Where faults are contained

A fault is contained where its node stands. Containing it touches neither the
scopes nor the settings, so it makes no difference whether that happens before or
after a scope is left, and nodes in a row hand back a fault only if the
environment is strict.
-/

import MailMerge.Proofs.Render.Framing

namespace MailMerge
namespace Render

open MailMerge.Tree (Node KeepsSettings actionsIn)

/-- **Two environments with the same settings:** both or neither strict, and with
the same names personal. -/
structure SameSettings (before after : Env) : Prop where
  strict : after.strict = before.strict
  selector : after.selector = before.selector

theorem SameSettings.refl (env : Env) : SameSettings env env := ⟨rfl, rfl⟩

theorem SameSettings.trans {first second third : Env} (h : SameSettings first second)
    (h' : SameSettings second third) : SameSettings first third :=
  ⟨h'.strict.trans h.strict, h'.selector.trans h.selector⟩

theorem sameSettings_leave (env : Env) : SameSettings env env.leave := by
  unfold Env.leave
  split <;> exact ⟨rfl, rfl⟩

theorem sameSettings_contained (outcome : Outcome) : SameSettings outcome.2 outcome.contained.2 := by
  obtain ⟨_ | _, env⟩ := outcome
  · simp only [Outcome.contained, Env.contain]
    split <;> exact ⟨rfl, rfl⟩
  · exact ⟨rfl, rfl⟩

/-- Whether faults are contained, and which names are personal, decides alone
what is selected. -/
theorem SameSettings.selects {before after : Env} (h : SameSettings before after)
    (names : List String) : after.selects names = before.selects names := by
  simp only [Env.selects, h.selector]

/-- Containing a fault and leaving a scope can change places. -/
theorem contain_leave (env : Env) (fault : Fault) :
    env.leave.contain fault = ((env.contain fault).1, (env.contain fault).2.leave) := by
  unfold Env.leave Env.contain
  cases hs : env.strict <;> cases ho : env.outer <;> simp [hs, ho]

/-- A contained outcome is a fault only in a strict environment. -/
theorem strict_of_contained_error {outcome : Outcome} {fault : Fault} {after : Env}
    (h : outcome.contained = (.error fault, after)) : after.strict = true := by
  obtain ⟨_ | _, env⟩ := outcome
  · simp only [Outcome.contained, Env.contain] at h
    split at h
    · obtain ⟨-, rfl⟩ := Prod.mk.inj h
      assumption
    · simp at h
  · simp [Outcome.contained] at h

/-- **Nodes in a row hand back a fault only in a strict environment.** -/
theorem strict_of_renderAll_error {nodes : List Node} {env after : Env} {fault : Fault}
    (h : renderAll env nodes = (.error fault, after)) : after.strict = true := by
  induction nodes generalizing env with
  | nil => simp [renderAll] at h
  | cons node nodes ih =>
    cases hsignal : node.signal? with
    | some signal =>
      rw [renderAll_signal hsignal] at h
      split at h <;> simp at h
    | none =>
      rw [renderAll_cons hsignal] at h
      split at h
      · simp at h
      · split at h
        · rename_i text middle _
          cases hrest : renderAll middle nodes with
          | mk result last =>
            rw [hrest] at h
            cases result with
            | error other =>
              obtain ⟨hfault, rfl⟩ := Prod.mk.inj h
              obtain rfl := Except.error.inj hfault
              exact ih hrest
            | ok more => simp [Outcome.after] at h
        · rename_i hcontained
          obtain ⟨-, rfl⟩ := Prod.mk.inj h
          exact strict_of_contained_error hcontained

/-- **Containing the outcome of nodes in a row changes nothing,** since each fault
has been contained where it arose. -/
theorem contained_renderAll (env : Env) (nodes : List Node) :
    (renderAll env nodes).contained = renderAll env nodes := by
  cases h : renderAll env nodes with
  | mk result after =>
    cases result with
    | ok text => rfl
    | error fault => simp [Outcome.contained, Env.contain, strict_of_renderAll_error h]

/-- Rendering keeps the settings step by step if the actions of tags do. -/
theorem framing_settings : Framing SameSettings KeepsSettings where
  refl := .refl
  trans := .trans
  contain env fault := sameSettings_contained (.error fault, env)
  interrupt _ _ := ⟨rfl, rfl⟩
  leave inside := ⟨(sameSettings_leave _).strict.trans inside.strict,
    (sameSettings_leave _).selector.trans inside.selector⟩
  act keeps markup env := ⟨(keeps markup env).1, (keeps markup env).2⟩

/-- A node keeps the settings if the actions of its tags do. -/
theorem sameSettings_renderNode (node : Node) (env : Env)
    (keep : ∀ action ∈ actionsIn node.items, KeepsSettings action) :
    SameSettings env (renderNode env node).2 := framing_settings.renderNode node env keep

end Render
end MailMerge
