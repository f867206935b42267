import Vimscript.Proofs.Run.Keeping

/-!
# What a run lets the host know

A message a script shows and an error that is reported each leave traces
in several places: the interpreter's own list of messages or of errors,
the host's log of texts, and, for an error, the host's count. The `notes`
of a run are the common source of all of them: each note is a message or
an error, in the order in which they were made, and every one of the lists
has grown by its share of the notes (`Noted`).

That some notes account for the change is a steady relation (`Logs`), so
it holds of every run, however it ends. Nothing is ever taken out of a
list or put anywhere but at its end.
-/

namespace Vimscript

/-- Something a run lets the host know. -/
inductive Note where
  | shown (text : String)
  | reported (e : ScriptError)

namespace Note

/-- What the host shows of a note. -/
def text : Note → String
  | shown text => text
  | reported e => e.message

/-- The message a note is, if it is one. -/
def message? : Note → Option String
  | shown text => some text
  | reported _ => none

/-- The error a note is, if it is one. -/
def error? : Note → Option ScriptError
  | shown _ => none
  | reported e => some e

end Note

/-- The messages among some notes. -/
def messagesOf (notes : List Note) : List String := notes.filterMap Note.message?

/-- The errors among some notes. -/
def errorsOf (notes : List Note) : List ScriptError := notes.filterMap Note.error?

@[simp] theorem messagesOf_append (notes notes' : List Note) :
    messagesOf (notes ++ notes') = messagesOf notes ++ messagesOf notes' :=
  List.filterMap_append

@[simp] theorem errorsOf_append (notes notes' : List Note) :
    errorsOf (notes ++ notes') = errorsOf notes ++ errorsOf notes' :=
  List.filterMap_append

/-- Between two states exactly these notes were made, in this order. Only a host that can count
has counted the errors. -/
structure Noted (notes : List Note) (s t : State) : Prop where
  messages : t.messages.toList = s.messages.toList ++ messagesOf notes
  errors : t.errors.toList = s.errors.toList ++ errorsOf notes
  kind : t.host.kind = s.host.kind
  log : t.host.messages.toList = s.host.messages.toList ++ notes.map Note.text
  count : s.host.kind ≠ .minimal →
    t.host.errorCount = s.host.errorCount + (errorsOf notes).length

/-- Some notes account for all that was shown and reported between two states. -/
def Logs (s t : State) : Prop := ∃ notes, Noted notes s t

namespace Host

theorem kind_showMessage (h : Host) (text : String) : (h.showMessage text).kind = h.kind := by
  unfold showMessage
  dsimp only
  split <;> rfl

theorem messages_showMessage (h : Host) (text : String) :
    (h.showMessage text).messages = h.messages.push text := by
  unfold showMessage
  dsimp only
  split <;> rfl

theorem errorCount_showMessage (h : Host) (text : String) :
    (h.showMessage text).errorCount = h.errorCount := by
  unfold showMessage
  dsimp only
  split <;> rfl

theorem kind_indicateError (h : Host) : h.indicateError.kind = h.kind := by
  unfold indicateError
  split <;> rfl

theorem messages_indicateError (h : Host) : h.indicateError.messages = h.messages := by
  unfold indicateError
  split <;> rfl

theorem errorCount_indicateError (h : Host) (hk : h.kind ≠ .minimal) :
    h.indicateError.errorCount = h.errorCount + 1 := by
  unfold indicateError
  rw [if_neg hk]

end Host

namespace Noted

theorem refl (s : State) : Noted [] s s where
  messages := (List.append_nil _).symm
  errors := (List.append_nil _).symm
  kind := rfl
  log := (List.append_nil _).symm
  count _ := rfl

theorem trans {notes notes' : List Note} {s t u : State} (hst : Noted notes s t)
    (htu : Noted notes' t u) : Noted (notes ++ notes') s u where
  messages := by rw [htu.messages, hst.messages, messagesOf_append, List.append_assoc]
  errors := by rw [htu.errors, hst.errors, errorsOf_append, List.append_assoc]
  kind := htu.kind.trans hst.kind
  log := by rw [htu.log, hst.log, List.map_append, List.append_assoc]
  count hk := by
    have htk : t.host.kind ≠ .minimal := by
      rw [hst.kind]
      exact hk
    rw [htu.count htk, hst.count hk, errorsOf_append, List.length_append, Nat.add_assoc]

/-- A change that leaves the lists and the host's log alone makes no notes. -/
theorem silent {s t : State} (hmessages : t.messages = s.messages) (herrors : t.errors = s.errors)
    (hhost : s.host.SameLog t.host) : Noted [] s t where
  messages := by rw [hmessages]; exact (List.append_nil _).symm
  errors := by rw [herrors]; exact (List.append_nil _).symm
  kind := hhost.kind
  log := by rw [hhost.messages]; exact (List.append_nil _).symm
  count _ := hhost.errorCount

theorem traced (setup : Setup) (parts : List String) (s : State) :
    Noted [] s (Run.traced setup parts s) := by
  unfold Run.traced
  split
  · exact .silent rfl rfl (.refl s.host)
  · exact .refl s

theorem shown (s : State) (text : String) :
    Noted [.shown text] s
      { s with messages := s.messages.push text, host := s.host.showMessage text } where
  messages := Array.toList_push
  errors := (List.append_nil _).symm
  kind := s.host.kind_showMessage text
  log := by
    simp only [Host.messages_showMessage, Array.toList_push]
    rfl
  count _ := s.host.errorCount_showMessage text

theorem reported (s : State) (e : ScriptError) (h : Heap) :
    Noted [.reported e] s
      { s with heap := h, errors := s.errors.push e,
               host := (s.host.showMessage e.message).indicateError } where
  messages := (List.append_nil _).symm
  errors := Array.toList_push
  kind := by
    simp only [Host.kind_indicateError, Host.kind_showMessage]
  log := by
    simp only [Host.messages_indicateError, Host.messages_showMessage, Array.toList_push]
    rfl
  count hk := by
    have hshown : (s.host.showMessage e.message).kind ≠ .minimal := by
      rw [Host.kind_showMessage]
      exact hk
    simp only [Host.errorCount_indicateError _ hshown, Host.errorCount_showMessage]
    rfl

end Noted

theorem logs_steady : Steady Logs where
  refl s := ⟨[], .refl s⟩
  trans := by
    rintro s t u ⟨notes, hst⟩ ⟨notes', htu⟩
    exact ⟨notes ++ notes', hst.trans htu⟩
  heap s _ _ := ⟨[], .silent rfl rfl (.refl s.host)⟩
  registry s _ _ := ⟨[], .silent rfl rfl (.refl s.host)⟩
  site s _ := ⟨[], .silent rfl rfl (.refl s.host)⟩
  trace s _ := ⟨[], .silent rfl rfl (.refl s.host)⟩
  host _ _ h := ⟨[], .silent rfl rfl h⟩
  shown s text := ⟨[.shown text], .shown s text⟩
  reported s e h _ := ⟨[.reported e], .reported s e h⟩
  call := by
    -- The name on the stack is in none of the lists.
    rintro s t name ⟨notes, h⟩
    exact ⟨notes, ⟨h.messages, h.errors, h.kind, h.log, h.count⟩⟩

end Vimscript
