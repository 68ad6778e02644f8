import Passthrough.Portal.Registers

set_option autoImplicit false

/-! Registers behind which a command is kept in cells. Only the register of the header does
more than store a word and show it again; so once a command has been submitted its
cells hold that command, and collecting a response yields what the cells show. -/

namespace Passthrough.Portal

section

variable {α : Type} {count : Nat}

private theorem foldl_set (items : List (Fin count)) (source start : Vector α count)
    (place : Nat) (inside : place < count)
    (copied : ⟨place, inside⟩ ∈ items ∨ start[place] = source[place]) :
    (items.foldl (fun copied (index : Fin count) => copied.set index.val (source.get index)
      index.isLt) start)[place] = source[place] := by
  induction items generalizing start with
  | nil =>
      rcases copied with impossible | copied
      · cases impossible
      · exact copied
  | cons head rest ih =>
      rw [List.foldl_cons]
      apply ih
      by_cases same : head.val = place
      · subst same
        exact Or.inr (Vector.getElem_set_self head.isLt)
      · rw [Vector.getElem_set_ne head.isLt inside same]
        refine copied.imp_left fun member => ?_
        rcases List.mem_cons.mp member with here | later
        · exact absurd (congrArg Fin.val here).symm same
        · exact later

private theorem foldl_set_finRange (source start : Vector α count) :
    (List.finRange count).foldl
      (fun copied (index : Fin count) => copied.set index.val (source.get index) index.isLt) start =
        source := by
  apply Vector.ext
  intro place inside
  exact foldl_set _ source start place inside (Or.inl (List.mem_finRange _))

end

/-- Every other register than the first is a cell, and `rest` does not depend on these. -/
structure Registers.Keeps {World Rest : Type} (registers : Registers World)
    (cells : World → Command) (rest : World → Rest) : Prop where
  write : ∀ (index : Fin Command.parameterCount) (value : UInt64) (world : World),
    let after := registers.write (Command.parameterOffset index) value world
    cells after = { cells world with
        parameters := (cells world).parameters.set index.val value index.isLt } ∧
      rest after = rest world
  read : ∀ (index : Fin Command.parameterCount) (world : World),
    let ended := registers.read (Command.parameterOffset index) world
    ended.1 = (cells world).parameters.get index ∧ cells ended.2 = cells world ∧
      rest ended.2 = rest world

theorem parameterOffset_ne_zero (index : Nat) : Command.parameterOffset index ≠ 0 := by
  unfold Command.parameterOffset
  omega

theorem parameterOffset_div_ne_zero (index : Nat) : Command.parameterOffset index / 8 ≠ 0 := by
  unfold Command.parameterOffset
  omega

theorem parameterOffset_div (index : Nat) : Command.parameterOffset index / 8 - 1 = index := by
  unfold Command.parameterOffset
  omega

theorem storeAt_parameterOffset (cells : Command) (index : Fin Command.parameterCount)
    (value : UInt64) :
    storeAt cells (Command.parameterOffset index) value =
      { cells with parameters := cells.parameters.set index.val value index.isLt } := by
  rw [storeAt, if_neg (parameterOffset_div_ne_zero index), parameterOffset_div]
  congr 1
  apply Vector.ext
  intro other inside
  simp [Vector.getElem_setIfInBounds, Vector.getElem_set]

theorem wordAt_parameterOffset (cells : Command) (index : Fin Command.parameterCount) :
    wordAt cells (Command.parameterOffset index) = cells.parameters.get index := by
  rw [wordAt, if_neg (parameterOffset_div_ne_zero index), parameterOffset_div]
  simp [Vector.get]

namespace Registers.Keeps

variable {World Rest : Type} {registers : Registers World} {cells : World → Command}
  {rest : World → Rest}

private theorem write_each (keeps : registers.Keeps cells rest) (command : Command)
    (items : List (Fin Command.parameterCount)) (world : World) :
    let after := items.foldl (fun world (index : Fin Command.parameterCount) =>
      registers.write (Command.parameterOffset index) (command.parameters.get index) world) world
    (cells after).parameters = items.foldl (fun copied (index : Fin Command.parameterCount) =>
        copied.set index.val (command.parameters.get index) index.isLt)
          (cells world).parameters ∧
      rest after = rest world := by
  induction items generalizing world with
  | nil => exact ⟨rfl, rfl⟩
  | cons head others ih =>
      obtain ⟨stored, aside⟩ := keeps.write head (command.parameters.get head) world
      obtain ⟨shown, kept⟩ := ih
        (registers.write (Command.parameterOffset head) (command.parameters.get head) world)
      rw [List.foldl_cons, List.foldl_cons]
      refine ⟨shown.trans ?_, kept.trans aside⟩
      rw [stored]

theorem submit (keeps : registers.Keeps cells rest) (command : Command) (world : World) :
    ∃ prepared, registers.submit command world = registers.write 0 command.header prepared ∧
      storeAt (cells prepared) 0 command.header = command ∧ rest prepared = rest world := by
  obtain ⟨shown, aside⟩ := keeps.write_each command (List.finRange Command.parameterCount) world
  rw [foldl_set_finRange] at shown
  refine ⟨_, rfl, ?_, aside⟩
  rw [storeAt, if_pos rfl, shown]

private theorem read_each (keeps : registers.Keeps cells rest)
    (items : List (Fin Command.parameterCount))
    (collected : Vector UInt64 Command.parameterCount) (world : World) :
    let ended := items.foldl (fun (collected, world) (index : Fin Command.parameterCount) =>
      let (value, world) := registers.read (Command.parameterOffset index) world
      (collected.set index.val value index.isLt, world)) (collected, world)
    ended.1 = items.foldl (fun copied (index : Fin Command.parameterCount) =>
        copied.set index.val ((cells world).parameters.get index) index.isLt) collected ∧
      cells ended.2 = cells world ∧ rest ended.2 = rest world := by
  induction items generalizing collected world with
  | nil => exact ⟨rfl, rfl, rfl⟩
  | cons head others ih =>
      obtain ⟨found, same, aside⟩ := keeps.read head world
      obtain ⟨shown, still, kept⟩ := ih
        (collected.set head.val (registers.read (Command.parameterOffset head) world).1 head.isLt)
        (registers.read (Command.parameterOffset head) world).2
      rw [same] at shown
      refine ⟨shown.trans ?_, still.trans same, kept.trans aside⟩
      rw [List.foldl_cons, found]

theorem collect (keeps : registers.Keeps cells rest) (world : World) :
    let ended := registers.collect (cells world).header world
    ended.1 = cells world ∧ cells ended.2 = cells world ∧ rest ended.2 = rest world := by
  obtain ⟨shown, still, kept⟩ := keeps.read_each (List.finRange Command.parameterCount)
    Command.blank.parameters world
  rw [foldl_set_finRange] at shown
  refine ⟨?_, still, kept⟩
  unfold Registers.collect
  exact congrArg (fun parameters => ({ header := _, parameters := parameters } : Command)) shown

end Registers.Keeps

end Passthrough.Portal
