import Passthrough.Proofs.Files.Leading
import Passthrough.Proofs.Session.LoadOutcome

set_option autoImplicit false

/-! Which requests are accepted: those whose files are there, regular, readable, filled and within
their limits, wherever the links at their paths lead. A refusal names the first of these
that a file lacks, and the image goes before the arguments. What is accepted can be opened. -/

namespace Passthrough

open Files (FileTree Content)

/-- A path leads to a readable regular file of a length from one byte up to a limit. -/
structure Loadable (files : FileTree) (path : String) (limit length : Nat) : Prop where
  file : ∃ content, files.Finds path (.ok (.regular content true)) ∧ content.length = length
  filled : 1 ≤ length
  fits : length ≤ limit

inductive Lacking (files : FileTree) (path : String) (limit : Nat) : FileFault → Prop where
  | lookup {source : SystemError} (nowhere : files.Finds path (.error source)) :
      Lacking files path limit (.lookup source)
  | notRegular {entry : Files.Entry} (found : files.Finds path (.ok entry))
      (other : ∀ content readable, entry ≠ .regular content readable) :
      Lacking files path limit .notRegular
  | notReadable {content : Content} (found : files.Finds path (.ok (.regular content false))) :
      Lacking files path limit (.notReadable .accessDenied)
  | empty {content : Content} (found : files.Finds path (.ok (.regular content true)))
      (nothing : content.length = 0) : Lacking files path limit .empty
  | tooLong {content : Content} (found : files.Finds path (.ok (.regular content true)))
      (long : limit < content.length) :
      Lacking files path limit (.tooLong content.length limit)

variable {files : FileTree} {path : String} {limit : Nat}

theorem Loadable.unique {length other : Nat} (one : Loadable files path limit length)
    (two : Loadable files path limit other) : length = other := by
  obtain ⟨content, found, rfl⟩ := one.file
  obtain ⟨again, known, rfl⟩ := two.file
  cases found.unique known
  rfl

theorem Lacking.unique {fault other : FileFault} (one : Lacking files path limit fault)
    (two : Lacking files path limit other) : fault = other := by
  cases one <;> cases two <;> grind [FileTree.Finds.unique]

/-- A file that can be loaded lacks nothing. -/
theorem Lacking.not_loadable {fault : FileFault} {length : Nat}
    (lacking : Lacking files path limit fault) : ¬ Loadable files path limit length := by
  intro loadable
  obtain ⟨content, found, rfl⟩ := loadable.file
  have filled := loadable.filled
  have fits := loadable.fits
  cases lacking with
  | lookup nowhere => cases found.unique nowhere
  | notRegular other plain =>
      cases found.unique other
      exact plain content true rfl
  | notReadable other => cases found.unique other
  | empty other nothing =>
      cases found.unique other
      omega
  | tooLong other long =>
      cases found.unique other
      omega

theorem Loadable.word {length : Nat} (loadable : Loadable files path limit length)
    (small : limit < UInt32.size) :
    Loadable files path limit (UInt32.ofNat length).toNat := by
  have fits : length < UInt32.size := Nat.lt_of_le_of_lt loadable.fits small
  rw [UInt32.toNat_ofNat_of_lt' fits]
  exact loadable

/-- A machine opens what a check finds to be regular. -/
theorem Loadable.opens {length : Nat} (loadable : Loadable files path limit length)
    {sim : Simulator} (unhindered : ∀ ordinal, sim.has (.openFile ordinal) = false) :
    ∃ file, (Simulator.openFile files sim path).1 = .ok file := by
  obtain ⟨content, found, -⟩ := loadable.file
  have looked := FileTree.finds_iff.mp found
  have regular : Simulator.isRegular files path = true := by
    unfold Simulator.isRegular
    rw [looked]
  rw [Simulator.openFile_eq, unhindered, regular]
  exact ⟨_, rfl⟩

namespace LoadRequest

theorem checkFile_cases (files : FileTree) (path : String) (small : limit < UInt32.size) :
    (∃ length, checkFile files path limit = .ok length ∧
        Loadable files path limit length.toNat) ∨
      ∃ fault, checkFile files path limit = .error fault ∧ Lacking files path limit fault := by
  have found := files.finds_status path
  unfold checkFile
  cases looked : files.status path with
  | error source =>
      rw [looked] at found
      exact Or.inr ⟨_, rfl, .lookup found⟩
  | ok entry =>
      rw [looked] at found
      cases entry with
      | regular content readable =>
          cases readable with
          | false => exact Or.inr ⟨_, rfl, .notReadable found⟩
          | true =>
              simp only [Bool.not_true, Bool.false_eq_true, if_false]
              by_cases nothing : content.length = 0
              · rw [if_pos nothing]
                exact Or.inr ⟨_, rfl, .empty found nothing⟩
              · rw [if_neg nothing]
                by_cases long : content.length > limit
                · rw [if_pos long]
                  exact Or.inr ⟨_, rfl, .tooLong found long⟩
                · have fits : content.length < UInt32.size := by omega
                  have exact : (UInt32.ofNat content.length).toNat = content.length :=
                    UInt32.toNat_ofNat_of_lt' fits
                  rw [if_neg long, if_pos fits]
                  refine Or.inl ⟨_, rfl, ?_⟩
                  rw [exact]
                  exact ⟨⟨content, found, rfl⟩, by omega, by omega⟩
      | directory => exact Or.inr ⟨_, rfl, .notRegular found nofun⟩
      | link target => exact Or.inr ⟨_, rfl, .notRegular found nofun⟩
      | device => exact Or.inr ⟨_, rfl, .notRegular found nofun⟩

theorem measure_ok_iff (small : limit < UInt32.size) {length : UInt32} :
    measure files path limit = .ok length ↔ Loadable files path limit length.toNat := by
  unfold measure
  rcases checkFile_cases files path small with ⟨known, checked, loadable⟩ | ⟨fault, checked, lacking⟩
  · rw [checked]
    constructor
    · intro accepted
      cases accepted
      exact loadable
    · intro again
      rw [UInt32.toNat_inj.mp (again.unique loadable)]
      rfl
  · rw [checked]
    constructor
    · intro accepted
      cases accepted
    · intro loadable
      exact absurd loadable lacking.not_loadable

theorem measure_error_iff (small : limit < UInt32.size) {failure : DriverError} :
    measure files path limit = .error failure ↔
      ∃ fault, failure = .invalidFile path fault ∧ Lacking files path limit fault := by
  unfold measure
  rcases checkFile_cases files path small with ⟨known, checked, loadable⟩ | ⟨found, checked, lacking⟩
  · rw [checked]
    constructor
    · intro refused
      cases refused
    · rintro ⟨fault, -, lacking⟩
      exact absurd loadable lacking.not_loadable
  · rw [checked]
    constructor
    · intro refused
      cases refused
      exact ⟨found, rfl, lacking⟩
    · rintro ⟨fault, rfl, again⟩
      rw [again.unique lacking]
      rfl

theorem image_limit_small : Staging.imageLimit < UInt32.size := by decide

theorem argument_limit_small : Staging.argumentLimit < UInt32.size := by decide

/-- The files of a request can be loaded, and a plan tells their lengths. -/
structure Fulfils (request : LoadRequest) (files : FileTree) (plan : LoadPlan) : Prop where
  image : Loadable files request.image Staging.imageLimit plan.imageLength.toNat
  without : request.arguments = none → plan.argumentLength = none
  arguments : ∀ path, request.arguments = some path → ∃ length, plan.argumentLength = some length ∧
    Loadable files path Staging.argumentLimit length.toNat

theorem plan_ok_iff {request : LoadRequest} {plan : LoadPlan} :
    request.plan files = .ok plan ↔ request.Fulfils files plan := by
  rw [plan_eq]
  constructor
  · intro accepted
    split at accepted
    · cases accepted
    · next imageLength image absent =>
        cases accepted
        exact ⟨(measure_ok_iff image_limit_small).mp image, fun _ => rfl,
          fun path given => by rw [absent] at given; cases given⟩
    · next imageLength path image given =>
        split at accepted
        · cases accepted
        · next length measured =>
            cases accepted
            refine ⟨(measure_ok_iff image_limit_small).mp image, ?_, ?_⟩
            · intro absent
              rw [given] at absent
              cases absent
            · intro other again
              rw [given] at again
              cases again
              exact ⟨length, rfl, (measure_ok_iff argument_limit_small).mp measured⟩
  · intro fulfils
    obtain ⟨imageLength, argumentLength⟩ := plan
    rw [(measure_ok_iff image_limit_small).mpr fulfils.image]
    cases given : request.arguments with
    | none =>
        have absent : argumentLength = none := fulfils.without given
        rw [absent]
    | some path =>
        obtain ⟨length, told, loadable⟩ := fulfils.arguments path given
        have told : argumentLength = some length := told
        simp only [(measure_ok_iff argument_limit_small).mpr loadable]
        rw [told]

/-- The first file that cannot be loaded, with what it lacks. -/
inductive Refused (request : LoadRequest) (files : FileTree) : DriverError → Prop where
  | image {fault : FileFault} (lacking : Lacking files request.image Staging.imageLimit fault) :
      Refused request files (.invalidFile request.image fault)
  | arguments {path : String} {length : Nat} {fault : FileFault}
      (image : Loadable files request.image Staging.imageLimit length)
      (given : request.arguments = some path)
      (lacking : Lacking files path Staging.argumentLimit fault) :
      Refused request files (.invalidFile path fault)

theorem plan_error_iff {request : LoadRequest} {failure : DriverError} :
    request.plan files = .error failure ↔ request.Refused files failure := by
  rw [plan_eq]
  constructor
  · intro refused
    split at refused
    · next earlier image =>
        cases refused
        obtain ⟨fault, rfl, lacking⟩ := (measure_error_iff image_limit_small).mp image
        exact .image lacking
    · cases refused
    · next imageLength path image given =>
        split at refused
        · next later measured =>
            cases refused
            obtain ⟨fault, rfl, lacking⟩ := (measure_error_iff argument_limit_small).mp measured
            exact .arguments ((measure_ok_iff image_limit_small).mp image) given lacking
        · cases refused
  · intro refused
    cases refused with
    | image lacking => rw [(measure_error_iff image_limit_small).mpr ⟨_, rfl, lacking⟩]
    | @arguments path length fault image given lacking =>
        have fits : length < UInt32.size := Nat.lt_of_le_of_lt image.fits image_limit_small
        have exact : (UInt32.ofNat length).toNat = length := UInt32.toNat_ofNat_of_lt' fits
        rw [← exact] at image
        rw [(measure_ok_iff image_limit_small).mpr image, given]
        simp only [(measure_error_iff argument_limit_small).mpr ⟨_, rfl, lacking⟩]

theorem exists_plan_iff {request : LoadRequest} :
    (∃ plan, request.plan files = .ok plan) ↔
      (∃ length, Loadable files request.image Staging.imageLimit length) ∧
        ∀ path, request.arguments = some path →
          ∃ length, Loadable files path Staging.argumentLimit length := by
  constructor
  · intro accepted
    obtain ⟨plan, planned⟩ := accepted
    have fulfils := plan_ok_iff.mp planned
    refine ⟨⟨_, fulfils.image⟩, ?_⟩
    intro path given
    obtain ⟨length, -, loadable⟩ := fulfils.arguments path given
    exact ⟨_, loadable⟩
  · intro loadable
    obtain ⟨⟨imageLength, image⟩, arguments⟩ := loadable
    have image := image.word image_limit_small
    cases given : request.arguments with
    | none =>
        refine ⟨⟨.ofNat imageLength, none⟩, plan_ok_iff.mpr ⟨image, fun _ => rfl, ?_⟩⟩
        intro path other
        rw [given] at other
        cases other
    | some path =>
        obtain ⟨length, argument⟩ := arguments path given
        refine ⟨⟨.ofNat imageLength, some (.ofNat length)⟩, plan_ok_iff.mpr ⟨image, ?_, ?_⟩⟩
        · intro absent
          rw [given] at absent
          cases absent
        · intro other again
          rw [given] at again
          cases again
          exact ⟨_, rfl, argument.word argument_limit_small⟩

theorem Refused.ne_overflow {request : LoadRequest} {failure : DriverError}
    (refused : request.Refused files failure) (path : String) :
    failure ≠ .invalidFile path .lengthOverflow := by
  rintro rfl
  cases refused with
  | image lacking => cases lacking
  | arguments image given lacking => cases lacking

/-- A request is accepted exactly if its files can be loaded, and the plan then holds their
lengths. Otherwise it is refused for the first thing that the first such file lacks,
which is never that its length is too large a number. A machine opens every file that
was accepted, unless it is told to fail. -/
theorem requests_are_judged_by_their_files (request : LoadRequest) (files : FileTree) :
    (∀ plan, request.plan files = .ok plan ↔ request.Fulfils files plan) ∧
    ((∃ plan, request.plan files = .ok plan) ↔
      (∃ length, Loadable files request.image Staging.imageLimit length) ∧
        ∀ path, request.arguments = some path →
          ∃ length, Loadable files path Staging.argumentLimit length) ∧
    (∀ failure, request.plan files = .error failure ↔ request.Refused files failure) ∧
    (∀ path, request.plan files ≠ .error (.invalidFile path .lengthOverflow)) ∧
    ∀ plan path (sim : Simulator), request.plan files = .ok plan →
      path = request.image ∨ request.arguments = some path →
        (∀ ordinal, sim.has (.openFile ordinal) = false) →
          ∃ file, (Simulator.openFile files sim path).1 = .ok file := by
  refine ⟨fun plan => plan_ok_iff, exists_plan_iff, fun failure => plan_error_iff, ?_, ?_⟩
  · intro path overflowed
    exact (plan_error_iff.mp overflowed).ne_overflow path rfl
  · intro plan path sim planned among unhindered
    have fulfils := plan_ok_iff.mp planned
    rcases among with rfl | given
    · exact fulfils.image.opens unhindered
    · obtain ⟨length, -, loadable⟩ := fulfils.arguments path given
      exact loadable.opens unhindered

/-- The largest files there may be, at the end of a chain of links that leaves the working
directory and comes back to it, on a machine with other things to fail at. -/
theorem requests_are_judged_by_their_files_of_chain :
    let files : FileTree :=
      { entries :=
          [ (["home"], .directory), (["home", "work"], .directory)
          , (["home", "work", "image"], .regular ⟨[], 8388608⟩ true)
          , (["home", "work", "first"], .link "../work/second")
          , (["home", "work", "second"], .link "/home/work/./image")
          , (["home", "work", "words"], .regular ⟨[1, 2], 512⟩ true) ]
        workingDirectory := ["home", "work"] }
    let request : LoadRequest := ⟨"first", some "../work//words", true⟩
    let sim := (Simulator.empty Tile.fresh).inject (.mapFile 1)
    request.Fulfils files ⟨8388608, some 512⟩ ∧
      (∀ ordinal, sim.has (.openFile ordinal) = false) ∧
      ∃ file, (Simulator.openFile files sim "first").1 = .ok file := by
  intro files request sim
  have judged := requests_are_judged_by_their_files request files
  have planned : request.plan files = .ok ⟨8388608, some 512⟩ := by
    have told : (request.plan files).toOption = some ⟨8388608, some 512⟩ := by decide +kernel
    cases judgement : request.plan files with
    | error failure =>
        rw [judgement] at told
        cases told
    | ok plan =>
        rw [judgement] at told
        cases told
        rfl
  have unhindered (ordinal : Nat) : sim.has (.openFile ordinal) = false :=
    (Simulator.empty Tile.fresh).has_inject_of_ne nofun
  exact ⟨(judged.1 _).mp planned, unhindered,
    judged.2.2.2.2 _ _ sim planned (Or.inl rfl) unhindered⟩

end LoadRequest

end Passthrough
