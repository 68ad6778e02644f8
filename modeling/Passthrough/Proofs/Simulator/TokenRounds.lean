import Mathlib.Data.List.Nodup
import Mathlib.Data.List.Range
import Passthrough.Proofs.Simulator.WellKept

set_option autoImplicit false

/-! Tokens come round. The tokens that are handed out over a run are the numbers from one to the
highest word, again and again. So the sessions that are open are as many as were opened
and not ended, less those whose token was handed out once more while they were open; and
that does not happen before every token was handed out. -/

namespace Passthrough.Simulator

variable {sim after : Simulator}

/-- What is observed of the stimuli of a run, each at the machine that it meets. -/
def collect {α : Type} (observe : Stimulus → Simulator → Option α) (sim : Simulator) :
    List Stimulus → List α
  | [] => []
  | stimulus :: rest =>
      (observe stimulus sim).toList ++ (sim.react stimulus).2.collect observe rest

theorem run_append (sim : Simulator) (earlier later : List Stimulus) :
    (sim.run (earlier ++ later)).2 = ((sim.run earlier).2.run later).2 := by
  induction earlier generalizing sim with
  | nil => rfl
  | cons stimulus rest ih => exact ih (sim.react stimulus).2

theorem collect_append {α : Type} (observe : Stimulus → Simulator → Option α) (sim : Simulator)
    (earlier later : List Stimulus) :
    sim.collect observe (earlier ++ later) =
      sim.collect observe earlier ++ (sim.run earlier).2.collect observe later := by
  induction earlier generalizing sim with
  | nil => rfl
  | cons stimulus rest ih =>
      have behind := ih (sim.react stimulus).2
      change (observe stimulus sim).toList ++ _ = ((observe stimulus sim).toList ++ _) ++ _
      rw [List.append_assoc]
      exact congrArg _ behind

/-! ### The order of the tokens -/

def tokenCount : Nat := 65535

/-- The token that is handed out at a position, the first of which is zero. -/
def tokenAt (position : Nat) : UInt16 :=
  UInt16.ofNat (position % tokenCount + 1)

theorem toNat_tokenAt (position : Nat) : (tokenAt position).toNat = position % tokenCount + 1 := by
  have inside : position % tokenCount < tokenCount := Nat.mod_lt _ (by decide)
  unfold tokenCount at inside
  exact UInt16.toNat_ofNat_of_lt' (by unfold tokenCount UInt16.size; omega)

theorem tokenAt_ne_zero (position : Nat) : tokenAt position ≠ 0 := by
  intro zero
  have number := toNat_tokenAt position
  rw [zero] at number
  exact absurd number.symm (Nat.succ_ne_zero _)

theorem tokenAt_injective {first second : Nat} (early : first < tokenCount)
    (soon : second < tokenCount) (same : tokenAt first = tokenAt second) : first = second := by
  have numbers := congrArg UInt16.toNat same
  rw [toNat_tokenAt, toNat_tokenAt, Nat.mod_eq_of_lt early, Nat.mod_eq_of_lt soon] at numbers
  omega

theorem nextToken_of_lastToken {position : Nat} (last : sim.lastToken = tokenAt position) :
    sim.nextToken = tokenAt (position + 1) := by
  have number := toNat_tokenAt position
  have following := toNat_tokenAt (position + 1)
  have next : (tokenAt position + 1).toNat = ((tokenAt position).toNat + 1) % 65536 :=
    UInt16.toNat_add _ _
  unfold nextToken
  rw [last]
  unfold tokenCount at *
  apply UInt16.toNat_inj.mp
  by_cases full : position % 65535 = 65534
  · have zero : tokenAt position + 1 = 0 := by
      apply UInt16.toNat_inj.mp
      rw [next, number, full]
      rfl
    simp only [zero, if_true]
    rw [following]
    change 1 = _
    omega
  · have nonzero : tokenAt position + 1 ≠ 0 := by
      intro zero
      rw [zero] at next
      change 0 = _ at next
      omega
    simp only [nonzero, if_false]
    rw [next, number, following]
    omega

def HasHandedOut (sim : Simulator) (count : Nat) : Prop :=
  sim.nextToken = tokenAt count

theorem HasHandedOut.handling {count : Nat} {handed ended : Option UInt16}
    (counted : sim.HasHandedOut count) (handling : Handling sim after handed ended) :
    after.HasHandedOut (count + handed.toList.length) ∧
      ∀ token, handed = some token → token = tokenAt count := by
  have next (same : after.lastToken = sim.lastToken) : after.nextToken = sim.nextToken := by
    unfold nextToken
    rw [same]
  cases handling with
  | opens sessions last =>
      constructor
      · exact nextToken_of_lastToken (last.trans counted)
      · rintro token ⟨⟩
        exact counted
  | closes opened sessions last => exact ⟨(next last).trans counted, nofun⟩
  | aside sessions last => exact ⟨(next last).trans counted, nofun⟩

/-- The tokens that are handed out over a run, from any position on. -/
theorem HasHandedOut.run {count : Nat} (counted : sim.HasHandedOut count)
    (stimuli : List Stimulus) :
    let opened := sim.collect Stimulus.handed? stimuli
    (sim.run stimuli).2.HasHandedOut (count + opened.length) ∧
      opened = (List.range' count opened.length).map tokenAt := by
  induction stimuli generalizing sim count with
  | nil => exact ⟨counted, rfl⟩
  | cons stimulus rest ih =>
      obtain ⟨further, token⟩ := counted.handling (sim.react_handling stimulus)
      obtain ⟨ended, behind⟩ := ih further
      change ((sim.react stimulus).2.run rest).2.HasHandedOut
        (count + ((stimulus.handed? sim).toList ++ _).length) ∧
          (stimulus.handed? sim).toList ++ _ =
            (List.range' count ((stimulus.handed? sim).toList ++ _).length).map tokenAt
      rw [List.length_append, ← Nat.add_assoc]
      refine ⟨ended, ?_⟩
      cases handed : stimulus.handed? sim with
      | none =>
          rw [handed] at behind
          simpa using behind
      | some first =>
          rw [handed] at behind
          rw [token first handed]
          simpa [Nat.add_comm 1, List.range'_succ] using behind

/-! ### The account of the sessions -/

private theorem size_open (sessions : Std.ExtTreeSet UInt16 compare) (token : UInt16) :
    (sessions.insert token).size + ((some token).filter sessions.contains).toList.length =
      sessions.size + 1 := by
  by_cases used : sessions.contains token
  · rw [Std.ExtTreeSet.size_insert, if_pos used, Option.filter_some, if_pos used]
    rfl
  · rw [Std.ExtTreeSet.size_insert, if_neg used, Option.filter_some, if_neg used]
    rfl

private theorem size_end {sessions : Std.ExtTreeSet UInt16 compare} {token : UInt16}
    (opened : token ∈ sessions) : (sessions.erase token).size + 1 = sessions.size := by
  have positive : sessions.size ≠ 0 := by
    intro nothing
    rw [Std.ExtTreeSet.eq_empty_iff_size_eq_zero.mpr nothing] at opened
    exact Std.ExtTreeSet.not_mem_empty opened
  rw [Std.ExtTreeSet.size_erase, if_pos (Std.ExtTreeSet.mem_iff_contains.mp opened)]
  omega

/-- A token that is handed out is one session more, unless it has one; an end is one less. -/
theorem Handling.account {handed ended : Option UInt16}
    (handling : Handling sim after handed ended) :
    after.holdings.sessions + ended.toList.length +
        (handed.filter sim.sessions.contains).toList.length =
      sim.holdings.sessions + handed.toList.length := by
  change after.sessions.size + _ + _ = sim.sessions.size + _
  cases handling with
  | opens sessions last =>
      rw [sessions]
      exact size_open sim.sessions sim.nextToken
  | closes opened sessions last =>
      rw [sessions]
      exact size_end opened
  | aside sessions last => rw [sessions]; rfl

theorem run_account (sim : Simulator) (stimuli : List Stimulus) :
    (sim.run stimuli).2.holdings.sessions + (sim.collect Stimulus.ended? stimuli).length +
        (sim.collect Stimulus.doubled? stimuli).length =
      sim.holdings.sessions + (sim.collect Stimulus.handed? stimuli).length := by
  induction stimuli generalizing sim with
  | nil => rfl
  | cons stimulus rest ih =>
      have one := (sim.react_handling stimulus).account
      have others := ih (sim.react stimulus).2
      simp only [run, collect, List.length_append]
      change _ + ((stimulus.ended? sim).toList.length + _) +
        (((stimulus.handed? sim).filter sim.sessions.contains).toList.length + _) = _
      omega

theorem Handling.sessions_of_ended {handed : Option UInt16} {token : UInt16}
    (handling : Handling sim after handed (some token)) :
    after.sessions = sim.sessions.erase token := by
  cases handling with
  | closes opened sessions last => exact sessions

/-! ### The first round -/

def Within (sim : Simulator) (count : Nat) : Prop :=
  ∀ token ∈ sim.sessions, token.toNat ≤ count

theorem Within.handling {count : Nat} {handed ended : Option UInt16} (within : sim.Within count)
    (counted : sim.HasHandedOut count) (handling : Handling sim after handed ended)
    (room : count + handed.toList.length ≤ tokenCount) :
    after.Within (count + handed.toList.length) ∧
      handed.filter sim.sessions.contains = none := by
  cases handling with
  | opens sessions last =>
      have number : sim.nextToken.toNat = count + 1 := by
        have early : count < tokenCount := room
        rw [counted, toNat_tokenAt, Nat.mod_eq_of_lt early]
      constructor
      · intro token member
        rw [sessions, Std.ExtTreeSet.mem_insert] at member
        rcases member with same | old
        · rw [← Std.LawfulEqOrd.eq_of_compare same, number]
          rfl
        · exact Nat.le_succ_of_le (within token old)
      · rw [Option.filter_eq_none_iff]
        rintro token ⟨⟩ used
        have bound := within sim.nextToken (Std.ExtTreeSet.mem_iff_contains.mpr used)
        omega
  | closes opened sessions last =>
      constructor
      · intro token member
        rw [sessions, Std.ExtTreeSet.mem_erase] at member
        exact within token member.2
      · rfl
  | aside sessions last =>
      constructor
      · intro token member
        rw [sessions] at member
        exact within token member
      · rfl

theorem Within.run {count : Nat} (within : sim.Within count) (counted : sim.HasHandedOut count)
    (stimuli : List Stimulus)
    (room : count + (sim.collect Stimulus.handed? stimuli).length ≤ tokenCount) :
    sim.collect Stimulus.doubled? stimuli = [] := by
  induction stimuli generalizing sim count with
  | nil => rfl
  | cons stimulus rest ih =>
      simp only [collect, List.length_append] at room ⊢
      have handling := sim.react_handling stimulus
      obtain ⟨still, fresh⟩ := within.handling counted handling (by omega)
      have behind := ih still (counted.handling handling).1 (by omega)
      rw [behind]
      change ((stimulus.handed? sim).filter sim.sessions.contains).toList ++ [] = []
      rw [fresh]
      rfl

/-! ### Over a whole run -/

private theorem built_blank (tile : Tile) (containers : List (String × GroupId × List String)) :
    (built tile containers).lastToken = 0 ∧ (built tile containers).sessions = ∅ :=
  built_of_withContainer (fun sim => sim.lastToken = 0 ∧ sim.sessions = ∅) ⟨rfl, rfl⟩
    (fun _ _ _ _ blank => blank) containers

theorem hasHandedOut_built (tile : Tile) (containers : List (String × GroupId × List String)) :
    (built tile containers).HasHandedOut 0 := by
  unfold HasHandedOut nextToken
  rw [(built_blank tile containers).1]
  rfl

/-- Over any run of a machine, with any portals and any commands: the tokens that are handed out
go round all words but zero in order; a close takes away the session it names and no other; the
sessions that are open are those opened and not ended, less those whose token was handed out
again while they were open, and there are none of these in the first round. -/
theorem tokens_go_round (tile : Tile) (containers : List (String × GroupId × List String))
    (stimuli : List Stimulus) :
    let start := built tile containers
    let opened := start.collect Stimulus.handed? stimuli
    let ended := start.collect Stimulus.ended? stimuli
    let doubled := start.collect Stimulus.doubled? stimuli
    opened = (List.range opened.length).map tokenAt ∧ 0 ∉ opened ∧
      (∀ stimulus token, stimulus.ended? (start.run stimuli).2 = some token →
        ((start.run stimuli).2.react stimulus).2.sessions =
          (start.run stimuli).2.sessions.erase token) ∧
      (start.run stimuli).2.holdings.sessions + ended.length + doubled.length = opened.length ∧
      (opened.length ≤ tokenCount → opened.Nodup ∧ doubled = []) := by
  dsimp only
  have blank := (built_blank tile containers).2
  obtain ⟨-, round⟩ := (hasHandedOut_built tile containers).run stimuli
  rw [← List.range_eq_range'] at round
  refine ⟨round, ?_, ?_, ?_, ?_⟩
  · rw [round]
    intro zero
    obtain ⟨position, -, token⟩ := List.mem_map.mp zero
    exact tokenAt_ne_zero position token
  · intro stimulus token named
    have handling := ((built tile containers).run stimuli).2.react_handling stimulus
    rw [named] at handling
    exact handling.sessions_of_ended
  · have account := (built tile containers).run_account stimuli
    have none : (built tile containers).holdings.sessions = 0 := by
      change (built tile containers).sessions.size = 0
      rw [blank]
      rfl
    omega
  · intro few
    constructor
    · rw [round]
      refine List.Nodup.map_on ?_ List.nodup_range
      intro first early second soon same
      exact tokenAt_injective (Nat.lt_of_lt_of_le (List.mem_range.mp early) few)
        (Nat.lt_of_lt_of_le (List.mem_range.mp soon) few) same
    · have nobody : (built tile containers).Within 0 := by
        intro token member
        rw [blank] at member
        exact absurd member Std.ExtTreeSet.not_mem_empty
      exact nobody.run (hasHandedOut_built tile containers) stimuli (by omega)

/-! ### The second round -/

theorem Handling.stays {token : UInt16} {handed ended : Option UInt16}
    (handling : Handling sim after handed ended) (unended : token ∉ ended.toList)
    (known : token ∈ sim.sessions ∨ token ∈ handed.toList) : token ∈ after.sessions := by
  cases handling with
  | opens sessions last =>
      rw [sessions, Std.ExtTreeSet.mem_insert]
      rcases known with old | new
      · exact Or.inr old
      · refine Or.inl (Std.LawfulEqOrd.compare_eq_iff_eq.mpr ?_)
        exact (List.mem_singleton.mp new).symm
  | closes opened sessions last =>
      rw [sessions, Std.ExtTreeSet.mem_erase]
      rcases known with old | impossible
      · refine ⟨fun same => unended ?_, old⟩
        rw [Std.LawfulEqOrd.eq_of_compare same]
        exact List.mem_singleton_self token
      · cases impossible
  | aside sessions last =>
      rw [sessions]
      rcases known with old | impossible
      · exact old
      · cases impossible

theorem session_stays {token : UInt16} (stimuli : List Stimulus)
    (unended : token ∉ sim.collect Stimulus.ended? stimuli)
    (known : token ∈ sim.sessions ∨ token ∈ sim.collect Stimulus.handed? stimuli) :
    token ∈ (sim.run stimuli).2.sessions := by
  induction stimuli generalizing sim with
  | nil =>
      rcases known with old | impossible
      · exact old
      · cases impossible
  | cons stimulus rest ih =>
      obtain ⟨now, later⟩ := not_or.mp (mt List.mem_append.mpr unended)
      have handling := sim.react_handling stimulus
      refine ih later ?_
      rcases known with old | new
      · exact Or.inl (handling.stays now (Or.inl old))
      · rcases List.mem_append.mp new with first | behind
        · exact Or.inl (handling.stays now (Or.inr first))
        · exact Or.inr behind

def opening (portal : HostAddress) (hardwareId : UInt32) : Stimulus :=
  .send portal "open" (Call.encode (.openSession hardwareId))

def closing (portal : HostAddress) (token : Token) : Stimulus :=
  .send portal "close" (Call.encode (.closeSession token))

/-- Nothing stands against a session for this hardware. -/
structure Admits (sim : Simulator) (hardwareId : UInt32) : Prop where
  sound : ¬ sim.has .firmwareOpen = true
  own : hardwareId = sim.tile.attributes.id

theorem Admits.handed?_opening {hardwareId : UInt32} (admits : sim.Admits hardwareId)
    (portal : HostAddress) : (opening portal hardwareId).handed? sim = some sim.nextToken := by
  have known := Call.ofCommand?_encode (.openSession hardwareId)
  change sim.handed? (Call.encode (.openSession hardwareId)) = _
  generalize Call.encode (.openSession hardwareId) = command at known ⊢
  obtain ⟨done, token⟩ := respond_ok command hardwareId ⟨sim.nextToken⟩
  have answered : sim.serve (.openSession hardwareId) = (.ok ⟨sim.nextToken⟩, _) :=
    openSession_of_own sim hardwareId admits.sound admits.own
  unfold handed?
  rw [known, execute_of_call known, answered]
  dsimp only
  rw [if_pos done, token]

theorem Admits.send {hardwareId : UInt32} (admits : sim.Admits hardwareId) (portal : HostAddress)
    (operation : String) (command : Command) :
    (sim.react (.send portal operation command)).2.Admits hardwareId := by
  obtain ⟨portals, sent⟩ := sim.react_send portal operation command
  have change := sim.execute_change command
  have faults : (sim.execute command).2.faults = sim.faults := by rw [change.same]
  rw [sent]
  constructor
  · change ¬ List.contains (sim.execute command).2.faults .firmwareOpen = true
    rw [faults]
    exact admits.sound
  · exact admits.own.trans (congrArg TileAttributes.id change.attributes.symm)

theorem Admits.openings {hardwareId : UInt32} (admits : sim.Admits hardwareId)
    (portal : HostAddress) (count : Nat) :
    let stimuli := List.replicate count (opening portal hardwareId)
    (sim.run stimuli).2.Admits hardwareId ∧
      (sim.collect Stimulus.handed? stimuli).length = count ∧
      sim.collect Stimulus.ended? stimuli = [] := by
  induction count generalizing sim with
  | zero => exact ⟨admits, rfl, rfl⟩
  | succ count ih =>
      have handling := sim.react_handling (opening portal hardwareId)
      obtain ⟨still, counted, kept⟩ := ih (admits.send portal _ _)
      rw [admits.handed?_opening portal] at handling
      have unended : (opening portal hardwareId).ended? sim = none := by
        generalize (opening portal hardwareId).ended? sim = ended at handling
        cases handling
        rfl
      rw [List.replicate_succ]
      refine ⟨still, ?_, ?_⟩
      · simp only [collect, List.length_append, admits.handed?_opening portal]
        exact (congrArg (1 + ·) counted).trans (Nat.add_comm 1 count)
      · simp only [collect, unended]
        exact kept

theorem ended?_closing (portal : HostAddress) (token : Token) (sim : Simulator) :
    (closing portal token).handed? sim = none ∧
      ∀ other, (closing portal token).ended? sim = some other → other = token.number := by
  have known := Call.ofCommand?_encode (.closeSession token)
  change sim.handed? (Call.encode (.closeSession token)) = none ∧
    ∀ other, sim.ended? (Call.encode (.closeSession token)) = some other → other = token.number
  unfold handed? ended?
  rw [known]
  refine ⟨rfl, ?_⟩
  intro other named
  dsimp only at named
  split at named
  · exact (Option.some.inj named).symm
  · cases named

/-- After a whole round the first token is next again, and unless it was that one, it does not
help to have closed another session: the first is handed out although it is open. -/
theorem Admits.comes_round {hardwareId : UInt32} (admits : sim.Admits hardwareId)
    (counted : sim.HasHandedOut 0) (portal : HostAddress) (token : Token)
    (apart : token.number ≠ 1) (count : Nat) (whole : count = tokenCount) :
    let stimuli := List.replicate count (opening portal hardwareId) ++ [closing portal token]
    1 ∈ (sim.run stimuli).2.sessions ∧
      (opening portal hardwareId).handed? (sim.run stimuli).2 = some 1 := by
  intro stimuli
  obtain ⟨still, length, kept⟩ := admits.openings portal count
  obtain ⟨silent, named⟩ := ended?_closing portal token
    (sim.run (List.replicate count (opening portal hardwareId))).2
  have handed : sim.collect Stimulus.handed? stimuli =
      sim.collect Stimulus.handed? (List.replicate count (opening portal hardwareId)) := by
    rw [collect_append, collect, silent]
    exact List.append_nil _
  obtain ⟨last, round⟩ := counted.run stimuli
  have some : 0 < count := by
    rw [whole]
    decide
  rw [handed, length] at last round
  have first : 1 ∈ sim.collect Stimulus.handed? stimuli := by
    rw [handed, round]
    exact List.mem_map.mpr ⟨0, List.mem_range'_1.mpr ⟨Nat.le_refl 0, by omega⟩, rfl⟩
  have unended : 1 ∉ sim.collect Stimulus.ended? stimuli := by
    rw [collect_append, kept, collect, collect]
    intro member
    simp only [List.nil_append, List.append_nil, Option.mem_toList] at member
    exact apart (named 1 member).symm
  constructor
  · exact session_stays stimuli unended (Or.inr first)
  · have admitting : (sim.run stimuli).2.Admits hardwareId := by
      rw [run_append]
      exact still.send portal _ _
    rw [admitting.handed?_opening portal, last, whole]
    rfl

theorem fewer_held_of_doubled (blank : sim.holdings.sessions = 0) (stimuli : List Stimulus)
    (stimulus : Stimulus) {token : UInt16}
    (doubled : stimulus.doubled? (sim.run stimuli).2 = some token) :
    (sim.run (stimuli ++ [stimulus])).2.holdings.sessions +
        (sim.collect Stimulus.ended? (stimuli ++ [stimulus])).length <
      (sim.collect Stimulus.handed? (stimuli ++ [stimulus])).length := by
  have account := sim.run_account (stimuli ++ [stimulus])
  have some : 0 < (sim.collect Stimulus.doubled? (stimuli ++ [stimulus])).length := by
    rw [collect_append, List.length_append, collect, doubled]
    exact Nat.lt_add_left _ (Nat.succ_pos _)
  omega

/-- With the second session of a whole round closed, the first token is handed out although it
is open; the sessions that are held are then fewer than were opened and not ended. -/
theorem a_token_is_handed_out_while_open :
    let start := built Tile.fresh [("dprc.5", ⟨7⟩, ["dpmcp.23", "dpaiop.0"])]
    let portal : HostAddress := ⟨firstAddress⟩
    let stimuli := [.openGroup ⟨7⟩, .deviceFd ⟨3⟩ "dpmcp.23", .mapPortal ⟨4⟩] ++
      (List.replicate 65535 (opening portal 0) ++ [closing portal ⟨2⟩])
    let longer := stimuli ++ [opening portal 0]
    1 ∈ (start.run stimuli).2.sessions ∧
      (opening portal 0).handed? (start.run stimuli).2 = some 1 ∧
      (start.run longer).2.holdings.sessions + (start.collect Stimulus.ended? longer).length ≠
        (start.collect Stimulus.handed? longer).length := by
  intro start portal stimuli longer
  let prepared : List Stimulus := [.openGroup ⟨7⟩, .deviceFd ⟨3⟩ "dpmcp.23", .mapPortal ⟨4⟩]
  have ready : (start.run prepared).2.Admits 0 := ⟨by decide +kernel, by decide +kernel⟩
  have counted : (start.run prepared).2.HasHandedOut 0 :=
    ((hasHandedOut_built _ _).run prepared).1
  have round := ready.comes_round counted portal ⟨2⟩ (by decide) 65535 rfl
  have split : prepared ++ (List.replicate 65535 (opening portal 0) ++ [closing portal ⟨2⟩]) =
    stimuli := rfl
  dsimp only at round
  rw [← run_append, split] at round
  have doubled : (opening portal 0).doubled? (start.run stimuli).2 = some 1 := by
    unfold Stimulus.doubled?
    rw [round.2, Option.filter_some, if_pos (Std.ExtTreeSet.mem_iff_contains.mp round.1)]
  refine ⟨round.1, round.2, Nat.ne_of_lt ?_⟩
  exact fewer_held_of_doubled rfl stimuli (opening portal 0) doubled

end Passthrough.Simulator
