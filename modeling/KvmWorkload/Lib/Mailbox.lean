import KvmWorkload.Lib.Lists

/-! # A command mailbox with a busy flag

A mailbox is a data register and an interface register.  Writing the interface
register starts a command; a flag in it stays set while the command runs.  The
discipline of a driver is stated over its trace, the sequence of its accesses.
-/

namespace KvmWorkload.Mailbox

inductive Reg where
  | data
  | interface
  deriving DecidableEq

variable {Core Value : Type}

/-- One access of a driver to a register of some core's mailbox. -/
inductive Event (Core Value : Type) where
  | read (core : Core) (reg : Reg) (value : Value)
  | write (core : Core) (reg : Reg) (value : Value)
  deriving DecidableEq

/-- The accesses so far, the latest one last. -/
abbrev Trace (Core Value : Type) := List (Event Core Value)

def Event.IsWrite : Event Core Value → Prop
  | .read .. => False
  | .write .. => True

def Event.poll? : Event Core Value → Option (Core × Value)
  | .read core .interface value => some (core, value)
  | _ => none

/-- The most recent value read from an interface register, and the core it was read on. -/
def lastPoll (trace : Trace Core Value) : Option (Core × Value) :=
  (trace.filterMap Event.poll?).getLast?

/-- The flag of `core` was clear when an interface register was last read. -/
def Idle (busy : Value → Bool) (core : Core) (trace : Trace Core Value) : Prop :=
  ∃ last, lastPoll trace = some (core, last) ∧ busy last = false

def ReadsOnly (trace : Trace Core Value) : Prop := ∀ event ∈ trace, ¬ event.IsWrite

/-- The last write of the trace started a command on `core`. -/
def Commanded (core : Core) (trace : Trace Core Value) : Prop :=
  ∃ earlier command later,
    trace = earlier ++ .write core .interface command :: later ∧ ReadsOnly later

/-- Since the last write, which started a command on `core`, its flag was seen clear. -/
def Answered (busy : Value → Bool) (core : Core) (trace : Trace Core Value) : Prop :=
  ∃ earlier command later value,
    trace = earlier ++ .write core .interface command :: later ∧ ReadsOnly later ∧
      .read core .interface value ∈ later ∧ busy value = false

/-- Registers are only written while the flag was last seen clear, and data is only taken when the
    command that produces it was seen to be over. -/
structure Safe (busy : Value → Bool) (trace : Trace Core Value) : Prop where
  write : ∀ before core reg value after, trace = before ++ .write core reg value :: after →
    Idle busy core before
  data : ∀ before core value after, trace = before ++ .read core .data value :: after →
    Answered busy core before

variable {busy : Value → Bool} {trace : Trace Core Value} {core : Core}

theorem Safe.nil : Safe busy ([] : Trace Core Value) :=
  ⟨fun before _ _ _ _ shape => absurd shape (by simp), fun before _ _ _ shape => absurd shape (by simp)⟩

theorem Safe.poll (safe : Safe busy trace) (core : Core) (value : Value) :
    Safe busy (trace ++ [.read core .interface value]) := by
  refine ⟨?_, ?_⟩
  · intro before core' reg value' after shape
    rcases snoc_eq_append_cons shape with ⟨-, other⟩ | ⟨after', inside⟩
    · cases other
    · exact safe.write _ _ _ _ _ inside
  · intro before core' value' after shape
    rcases snoc_eq_append_cons shape with ⟨-, other⟩ | ⟨after', inside⟩
    · cases other
    · exact safe.data _ _ _ _ inside

theorem Safe.write_of_idle (safe : Safe busy trace) (idle : Idle busy core trace) (reg : Reg)
    (value : Value) : Safe busy (trace ++ [.write core reg value]) := by
  refine ⟨?_, ?_⟩
  · intro before core' reg' value' after shape
    rcases snoc_eq_append_cons shape with ⟨rfl, same⟩ | ⟨after', inside⟩
    · cases same
      exact idle
    · exact safe.write _ _ _ _ _ inside
  · intro before core' value' after shape
    rcases snoc_eq_append_cons shape with ⟨-, other⟩ | ⟨after', inside⟩
    · cases other
    · exact safe.data _ _ _ _ inside

theorem Safe.data_of_answered (safe : Safe busy trace) (answered : Answered busy core trace)
    (value : Value) : Safe busy (trace ++ [.read core .data value]) := by
  refine ⟨?_, ?_⟩
  · intro before core' reg' value' after shape
    rcases snoc_eq_append_cons shape with ⟨-, other⟩ | ⟨after', inside⟩
    · cases other
    · exact safe.write _ _ _ _ _ inside
  · intro before core' value' after shape
    rcases snoc_eq_append_cons shape with ⟨rfl, same⟩ | ⟨after', inside⟩
    · cases same
      exact answered
    · exact safe.data _ _ _ _ inside

theorem Idle.poll (trace : Trace Core Value) (core : Core) {value : Value}
    (idle : busy value = false) : Idle busy core (trace ++ [.read core .interface value]) :=
  ⟨value, by simp [lastPoll, Event.poll?], idle⟩

theorem Idle.write (idle : Idle busy core trace) (core' : Core) (reg : Reg) (value : Value) :
    Idle busy core (trace ++ [.write core' reg value]) := by
  simpa [Idle, lastPoll, Event.poll?] using idle

theorem ReadsOnly.snoc (reads : ReadsOnly trace) (core : Core) (reg : Reg) (value : Value) :
    ReadsOnly (trace ++ [.read core reg value]) := by
  intro event member
  rcases List.mem_append.mp member with inside | last
  · exact reads event inside
  · rw [List.mem_singleton.mp last]
    exact id

theorem Commanded.command (trace : Trace Core Value) (core : Core) (command : Value) :
    Commanded core (trace ++ [.write core .interface command]) :=
  ⟨trace, command, [], rfl, by simp [ReadsOnly]⟩

theorem Commanded.read (commanded : Commanded core trace) (core' : Core) (reg : Reg)
    (value : Value) : Commanded core (trace ++ [.read core' reg value]) := by
  obtain ⟨earlier, command, later, rfl, reads⟩ := commanded
  exact ⟨earlier, command, _, by simp, reads.snoc core' reg value⟩

theorem Commanded.answered (commanded : Commanded core trace) {value : Value}
    (idle : busy value = false) : Answered busy core (trace ++ [.read core .interface value]) := by
  obtain ⟨earlier, command, later, rfl, reads⟩ := commanded
  exact ⟨earlier, command, _, value, by simp, reads.snoc core .interface value, by simp, idle⟩

theorem Answered.read (answered : Answered busy core trace) (core' : Core) (reg : Reg)
    (value : Value) : Answered busy core (trace ++ [.read core' reg value]) := by
  obtain ⟨earlier, command, later, seen, rfl, reads, found, idle⟩ := answered
  exact ⟨earlier, command, _, seen, by simp, reads.snoc core' reg value, by simp [found], idle⟩

/-- Registers are only written while the flag was last seen clear. -/
def WritesWhenIdle (busy : Value → Bool) (trace : Trace Core Value) : Prop :=
  ∀ before core reg value after, trace = before ++ .write core reg value :: after → Idle busy core before

theorem WritesWhenIdle.nil : WritesWhenIdle busy ([] : Trace Core Value) :=
  fun before _ _ _ _ shape => absurd shape (by simp)

theorem WritesWhenIdle.read (writes : WritesWhenIdle busy trace) (core : Core) (reg : Reg) (value : Value) :
    WritesWhenIdle busy (trace ++ [.read core reg value]) := by
  intro before core' reg' value' after shape
  rcases snoc_eq_append_cons shape with ⟨-, other⟩ | ⟨after', inside⟩
  · cases other
  · exact writes _ _ _ _ _ inside

theorem WritesWhenIdle.write (writes : WritesWhenIdle busy trace) (idle : Idle busy core trace) (reg : Reg)
    (value : Value) : WritesWhenIdle busy (trace ++ [.write core reg value]) := by
  intro before core' reg' value' after shape
  rcases snoc_eq_append_cons shape with ⟨rfl, same⟩ | ⟨after', inside⟩
  · cases same
    exact idle
  · exact writes _ _ _ _ _ inside

end KvmWorkload.Mailbox
