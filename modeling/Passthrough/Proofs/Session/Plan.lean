import Passthrough.Session.LoadRequest

set_option autoImplicit false

/-! What an accepted request says about its files: each is a regular file of exactly the
length that the plan names, and no longer than its limit. A request that is refused
is refused by a validation failure. -/

namespace Passthrough

open Files (FileTree)

def Files.FileTree.HasLength (files : FileTree) (path : String) (length : Nat) : Prop :=
  ∃ content readable, files.status path = .ok (.regular content readable) ∧
    content.length = length

namespace LoadRequest

theorem checkFile_ok {files : FileTree} {path : String} {limit : Nat} {length : UInt32}
    (accepted : checkFile files path limit = .ok length) :
    files.HasLength path length.toNat ∧ length.toNat ≤ limit := by
  unfold checkFile at accepted
  cases found : files.status path with
  | error source => simp only [found] at accepted; cases accepted
  | ok entry =>
      cases entry with
      | regular content readable =>
          simp only [found] at accepted
          repeat' split at accepted
          · cases accepted
          · cases accepted
          · cases accepted
          · next short fits =>
              cases accepted
              have exact : (UInt32.ofNat content.length).toNat = content.length :=
                UInt32.toNat_ofNat_of_lt' fits
              rw [exact]
              exact ⟨⟨content, readable, found, rfl⟩, Nat.not_lt.mp short⟩
          · cases accepted
      | _ => simp only [found] at accepted; cases accepted

theorem measure_ok {files : FileTree} {path : String} {limit : Nat} {length : UInt32}
    (accepted : measure files path limit = .ok length) :
    files.HasLength path length.toNat ∧ length.toNat ≤ limit := by
  unfold measure at accepted
  cases checked : checkFile files path limit with
  | error fault => rw [checked] at accepted; cases accepted
  | ok found =>
      rw [checked] at accepted
      cases accepted
      exact checkFile_ok checked

theorem isValidation_measure {files : FileTree} {path : String} {limit : Nat}
    {failure : DriverError} (refused : measure files path limit = .error failure) :
    failure.isValidation = true := by
  unfold measure at refused
  cases checked : checkFile files path limit with
  | ok found => rw [checked] at refused; cases refused
  | error fault =>
      rw [checked] at refused
      cases refused
      rfl

structure Sound (request : LoadRequest) (plan : LoadPlan) (files : FileTree) : Prop where
  image : files.HasLength request.image plan.imageLength.toNat
  imageShort : plan.imageLength.toNat ≤ Staging.imageLimit
  both : request.arguments.isSome = plan.argumentLength.isSome
  arguments : ∀ path length, request.arguments = some path → plan.argumentLength = some length →
    files.HasLength path length.toNat ∧ length.toNat ≤ Staging.argumentLimit

theorem plan_eq (request : LoadRequest) (files : FileTree) :
    request.plan files =
      match measure files request.image Staging.imageLimit, request.arguments with
      | .error failure, _ => .error failure
      | .ok imageLength, none => .ok { imageLength := imageLength, argumentLength := none }
      | .ok imageLength, some path =>
          match measure files path Staging.argumentLimit with
          | .error failure => .error failure
          | .ok length => .ok { imageLength := imageLength, argumentLength := some length } := by
  unfold plan
  cases measure files request.image Staging.imageLimit with
  | error failure => rfl
  | ok imageLength =>
      cases request.arguments with
      | none => rfl
      | some path =>
          cases measured : measure files path Staging.argumentLimit with
          | error failure =>
              simp only [measured]
              rfl
          | ok length =>
              simp only [measured]
              rfl

theorem sound_of_plan {request : LoadRequest} {files : FileTree} {plan : LoadPlan}
    (accepted : request.plan files = .ok plan) : request.Sound plan files := by
  rw [plan_eq] at accepted
  cases image : measure files request.image Staging.imageLimit with
  | error failure => rw [image] at accepted; cases accepted
  | ok imageLength =>
      obtain ⟨exact, short⟩ := measure_ok image
      rw [image] at accepted
      cases path : request.arguments with
      | none =>
          rw [path] at accepted
          cases accepted
          exact ⟨exact, short, by rw [path]; rfl, nofun⟩
      | some path' =>
          rw [path] at accepted
          cases arguments : measure files path' Staging.argumentLimit with
          | error failure => simp only [arguments] at accepted; cases accepted
          | ok length =>
              simp only [arguments] at accepted
              cases accepted
              refine ⟨exact, short, by rw [path]; rfl, fun other size named told => ?_⟩
              cases path.symm.trans named
              cases told
              exact measure_ok arguments

theorem isValidation_plan {request : LoadRequest} {files : FileTree} {failure : DriverError}
    (refused : request.plan files = .error failure) : failure.isValidation = true := by
  rw [plan_eq] at refused
  cases image : measure files request.image Staging.imageLimit with
  | error earlier =>
      rw [image] at refused
      cases refused
      exact isValidation_measure image
  | ok imageLength =>
      rw [image] at refused
      cases path : request.arguments with
      | none => rw [path] at refused; cases refused
      | some path' =>
          rw [path] at refused
          cases arguments : measure files path' Staging.argumentLimit with
          | error later =>
              simp only [arguments] at refused
              cases refused
              exact isValidation_measure arguments
          | ok length => simp only [arguments] at refused; cases refused

end LoadRequest

end Passthrough
