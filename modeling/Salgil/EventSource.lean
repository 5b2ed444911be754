import Mathlib.Data.List.Forall2
import Mathlib.Data.List.Infix

namespace Salgil
set_option autoImplicit true

namespace EventSource

/-- An event as the reader of a stream gets it. -/
structure Message where
  kind : List Char
  data : List Char
  lastId : List Char := []
  deriving DecidableEq

/-- The reader of an event stream: what has come of the current line, the buffers of the event that
is being read, and the events so far. -/
structure Reader where
  line : List Char := []
  afterCr : Bool := false
  kind : List Char := []
  data : List Char := []
  lastId : List Char := []
  messages : List Message := []

/-- The name of a field and its value, without the space that may come before it. -/
def field (line : List Char) : List Char × List Char :=
  match line.dropWhile (· ≠ ':') with
  | ':' :: ' ' :: value | ':' :: value => (line.takeWhile (· ≠ ':'), value)
  | _ => (line, [])

namespace Reader

/-- An event without data is dropped. -/
def dispatch (r : Reader) : Reader :=
  let kind := if r.kind = [] then "message".toList else r.kind
  { r with
    kind := []
    data := []
    messages := if r.data = [] then r.messages
      else r.messages ++ [⟨kind, r.data.dropLast, r.lastId⟩] }

/-- The fields other than these say nothing about the events; a comment is one without a name. -/
def takeField (r : Reader) (name value : List Char) : Reader :=
  if name = "event".toList then { r with kind := value }
  else if name = "data".toList then { r with data := r.data ++ value ++ ['\n'] }
  else if name = "id".toList ∧ '\x00' ∉ value then { r with lastId := value }
  else r

def takeLine (r : Reader) (line : List Char) : Reader :=
  if line = [] then r.dispatch else r.takeField (field line).1 (field line).2

/-- A line ends with a line feed, a carriage return, or both. -/
def feed (r : Reader) (c : Char) : Reader :=
  if c = '\n' ∧ r.afterCr then { r with afterCr := false }
  else if c = '\n' ∨ c = '\r' then
    { r.takeLine r.line with line := [], afterCr := c = '\r' }
  else { r with line := r.line ++ [c], afterCr := false }

def feedAll (r : Reader) (text : List Char) : Reader := text.foldl feed r

/-- The reader is between two lines. -/
structure AtLine (r : Reader) : Prop where
  line : r.line = []
  afterCr : r.afterCr = false

/-- The reader is between two events, and has come across no id. -/
structure Fresh (r : Reader) : Prop extends AtLine r where
  kind : r.kind = []
  data : r.data = []
  lastId : r.lastId = []

end Reader

/-- The events of a stream; what has not been ended by an empty line is none. -/
def messages (text : List Char) : List Message := (Reader.feedAll {} text).messages

example : messages "event: a\ndata: b\n\n: c\n\ndata:d\ne".toList =
    [⟨['a'], ['b'], []⟩] := by decide

/-- The text has no end of a line in it. -/
def OneLine (text : List Char) : Prop := '\n' ∉ text ∧ '\r' ∉ text

/-- The lines of an event and the empty line that ends it. -/
def block (lines : List (List Char)) : List Char := lines.flatMap (· ++ ['\n']) ++ ['\n']

/-- A frame that brings these events, and none of them before its last character. -/
def Yields (frame : List Char) (ms : List Message) : Prop :=
  ∀ r : Reader, r.Fresh → r.feedAll frame = { r with messages := r.messages ++ ms } ∧
    ∀ part, part <+: frame → part ≠ frame → (r.feedAll part).messages = r.messages

/-- How a stream of frames is read: wherever it is cut, the events are those that the frames that
have come whole carry, in their order. -/
structure Reads (text : α → List Char) (shows : Message → β → Prop) (carried : α → List β)
    (frames : List α) : Prop where
  whole : List.Forall₂ shows (messages (frames.map text).flatten) (frames.flatMap carried)
  cut : ∀ got, got <+: (frames.map text).flatten → ∃ k, ((frames.take k).map text).flatten <+: got ∧
    (k < frames.length → ¬ ((frames.take (k + 1)).map text).flatten <+: got) ∧
    List.Forall₂ shows (messages got) ((frames.take k).flatMap carried)

section
variable {r : Reader} {text line : List Char} {lines : List (List Char)} {ms : List Message}

namespace Reader

theorem feedAll_append (r : Reader) (text rest : List Char) :
    r.feedAll (text ++ rest) = (r.feedAll text).feedAll rest := List.foldl_append

theorem takeLine_atLine (h : r.AtLine) (line : List Char) : (r.takeLine line).AtLine := by
  unfold takeLine
  split
  · exact ⟨h.line, h.afterCr⟩
  · unfold takeField
    split
    · exact ⟨h.line, h.afterCr⟩
    · split
      · exact ⟨h.line, h.afterCr⟩
      · split
        · exact ⟨h.line, h.afterCr⟩
        · exact h

theorem feedAll_oneLine (h : OneLine text) (hcr : r.afterCr = false) :
    r.feedAll text = { r with line := r.line ++ text } := by
  induction text generalizing r with
  | nil => rw [feedAll, List.foldl_nil, List.append_nil]
  | cons c text ih =>
    obtain ⟨⟨hlf, hlfs⟩, hcr', hcrs⟩ : (c ≠ '\n' ∧ '\n' ∉ text) ∧ c ≠ '\r' ∧ '\r' ∉ text := by
      simpa [OneLine, eq_comm] using h
    have hfeed : r.feed c = { r with line := r.line ++ [c], afterCr := false } := by
      rw [feed, if_neg (fun h => hlf h.1), if_neg (not_or.2 ⟨hlf, hcr'⟩)]
    have hrest := ih (r := r.feed c) ⟨hlfs, hcrs⟩ (by rw [hfeed])
    rw [feedAll, List.foldl_cons, ← feedAll, hrest, hfeed]
    simp [hcr]

theorem feedAll_line (h : OneLine line) (hr : r.AtLine) :
    r.feedAll (line ++ ['\n']) = r.takeLine line := by
  have hline : r.line ++ line = line := by rw [hr.line, List.nil_append]
  have hsame : ({ r with line := line } : Reader).takeLine line =
      { r.takeLine line with line := line } := by
    unfold takeLine takeField dispatch
    split_ifs <;> rfl
  have hat := r.takeLine_atLine hr line
  rw [feedAll_append, feedAll_oneLine h hr.afterCr, hline, feedAll, List.foldl_cons, List.foldl_nil,
    feed, if_neg (by simp [hr.afterCr]), if_pos (.inl rfl), hsame]
  obtain ⟨hline', hcr'⟩ := hat
  simp [← hline', ← hcr']

theorem feedAll_lines (h : ∀ line ∈ lines, OneLine line) (hr : r.AtLine) :
    r.feedAll (lines.flatMap (· ++ ['\n'])) = lines.foldl takeLine r := by
  induction lines generalizing r with
  | nil => rfl
  | cons line lines ih =>
    obtain ⟨hline, hlines⟩ := List.forall_mem_cons.1 h
    rw [List.flatMap_cons, feedAll_append, feedAll_line hline hr, List.foldl_cons,
      ih hlines (takeLine_atLine hr line)]

/-- Only an empty line brings an event. -/
theorem takeLine_messages (h : line ≠ []) : (r.takeLine line).messages = r.messages := by
  rw [takeLine, if_neg h]
  unfold takeField
  split_ifs <;> rfl

theorem foldl_takeLine_atLine (h : r.AtLine) (lines : List (List Char)) :
    (lines.foldl takeLine r).AtLine := by
  induction lines generalizing r with
  | nil => exact h
  | cons line lines ih => exact ih (takeLine_atLine h line)

theorem feedAll_part (hr : r.AtLine) (h : ∀ line ∈ lines, line ≠ [] ∧ OneLine line)
    {part : List Char} (hpart : part <+: lines.flatMap (· ++ ['\n'])) :
    (r.feedAll part).messages = r.messages := by
  induction lines generalizing r part with
  | nil =>
    rw [List.prefix_nil.1 hpart]
    rfl
  | cons line lines ih =>
    obtain ⟨⟨hne, hline⟩, hlines⟩ := List.forall_mem_cons.1 h
    rw [List.flatMap_cons] at hpart
    rcases List.prefix_or_prefix_of_prefix hpart (List.prefix_append _ _) with hshort | hlong
    · rcases List.prefix_concat_iff.1 hshort with rfl | hshort
      · rw [feedAll_line hline hr, takeLine_messages hne]
      · have hpartLine : OneLine part :=
          ⟨fun hmem => hline.1 (hshort.subset hmem), fun hmem => hline.2 (hshort.subset hmem)⟩
        rw [feedAll_oneLine hpartLine hr.afterCr]
    · obtain ⟨rest, rfl⟩ := hlong
      rw [List.prefix_append_right_inj] at hpart
      rw [feedAll_append, feedAll_line hline hr, ih (takeLine_atLine hr line) hlines hpart,
        takeLine_messages hne]

end Reader

theorem Reader.Fresh.more (hr : r.Fresh) (ms : List Message) :
    ({ r with messages := r.messages ++ ms } : Reader).Fresh :=
  ⟨⟨hr.line, hr.afterCr⟩, hr.kind, hr.data, hr.lastId⟩

theorem yields_block (h : ∀ line ∈ lines, line ≠ [] ∧ OneLine line)
    (hlines : ∀ r : Reader, r.Fresh → (lines.foldl Reader.takeLine r).dispatch =
      { r with messages := r.messages ++ ms }) : Yields (block lines) ms := by
  intro r hr
  have hat := Reader.foldl_takeLine_atLine hr.toAtLine lines
  constructor
  · rw [block, Reader.feedAll_append, Reader.feedAll_lines (fun line hline => (h line hline).2)
      hr.toAtLine, ← List.nil_append ['\n'],
      Reader.feedAll_line ⟨List.not_mem_nil, List.not_mem_nil⟩ hat, Reader.takeLine, if_pos rfl,
      hlines r hr]
  · intro part hpart hne
    exact Reader.feedAll_part hr.toAtLine h ((List.prefix_concat_iff.1 hpart).resolve_left hne)

/-- Frames that bring what they carry are read one by one. -/
theorem reads_of_yields {α : Type u} {β : Type v} {text : α → List Char}
    {shows : Message → β → Prop} {carried : α → List β} {frames : List α}
    (h : ∀ frame ∈ frames, ∃ ms, Yields (text frame) ms ∧ List.Forall₂ shows ms (carried frame)) :
    Reads text shows carried frames := by
  have hrun : ∀ r : Reader, r.Fresh →
      (∃ ms, (r.feedAll (frames.map text).flatten).messages = r.messages ++ ms ∧
        List.Forall₂ shows ms (frames.flatMap carried)) ∧
      ∀ got, got <+: (frames.map text).flatten → ∃ k, ((frames.take k).map text).flatten <+: got ∧
        (k < frames.length → ¬ ((frames.take (k + 1)).map text).flatten <+: got) ∧
        ∃ ms, (r.feedAll got).messages = r.messages ++ ms ∧
          List.Forall₂ shows ms ((frames.take k).flatMap carried) := by
    induction frames with
    | nil =>
      intro r _
      refine ⟨⟨[], by simp [Reader.feedAll], .nil⟩, fun got hgot =>
        ⟨0, List.nil_prefix, by simp, ?_⟩⟩
      rw [List.map_nil, List.flatten_nil, List.prefix_nil] at hgot
      exact ⟨[], by simp [hgot, Reader.feedAll], .nil⟩
    | cons frame frames ih =>
      intro r hr
      obtain ⟨hframe, hframes⟩ := List.forall_mem_cons.1 h
      obtain ⟨ms, hyields, hshows⟩ := hframe
      obtain ⟨hwhole, hpart⟩ := hyields r hr
      obtain ⟨⟨ms', hall, hshows'⟩, hcut⟩ := ih hframes _ (hr.more ms)
      constructor
      · refine ⟨ms ++ ms', ?_, List.rel_append hshows hshows'⟩
        rw [List.map_cons, List.flatten_cons, Reader.feedAll_append, hwhole, hall,
          List.append_assoc]
      · intro got hgot
        rw [List.map_cons, List.flatten_cons] at hgot
        by_cases hin : text frame <+: got
        · obtain ⟨rest, rfl⟩ := hin
          rw [List.prefix_append_right_inj] at hgot
          obtain ⟨k, hk, hnext, more, hmessages, hmore⟩ := hcut rest hgot
          refine ⟨k + 1, ?_, ?_, ms ++ more, ?_, List.rel_append hshows hmore⟩
          · rwa [List.take_succ_cons, List.map_cons, List.flatten_cons,
              List.prefix_append_right_inj]
          · intro hlt
            rw [List.take_succ_cons, List.map_cons, List.flatten_cons,
              List.prefix_append_right_inj]
            exact hnext (by simpa using hlt)
          · rw [Reader.feedAll_append, hwhole, hmessages, List.append_assoc]
        · have hshort : got <+: text frame :=
            (List.prefix_or_prefix_of_prefix hgot (List.prefix_append _ _)).resolve_right hin
          refine ⟨0, List.nil_prefix, fun _ => by simpa using hin, [], ?_, .nil⟩
          rw [hpart got hshort fun heq => hin (heq ▸ List.prefix_rfl), List.append_nil]
  obtain ⟨⟨ms, hall, hshows⟩, hcut⟩ := hrun {} ⟨⟨rfl, rfl⟩, rfl, rfl, rfl⟩
  rw [List.nil_append] at hall
  constructor
  case whole =>
    rw [messages, hall]
    exact hshows
  case cut =>
    intro got hgot
    obtain ⟨k, hk, hnext, more, hmessages, hmore⟩ := hcut got hgot
    rw [List.nil_append] at hmessages
    refine ⟨k, hk, hnext, ?_⟩
    rw [messages, hmessages]
    exact hmore

end

section
variable {text text' name value : List Char}

theorem OneLine.append (h : OneLine text) (h' : OneLine text') :
    OneLine (text ++ text') := by
  simp [OneLine, h.1, h.2, h'.1, h'.2]

theorem field_of_name (hname : ':' ∉ name) (value : List Char) :
    field (name ++ ':' :: ' ' :: value) = (name, value) := by
  have hne : ∀ c ∈ name, decide (c ≠ ':') = true := by
    intro c hc
    rw [decide_eq_true_iff]
    rintro rfl
    exact hname hc
  have hdrop : (name ++ ':' :: ' ' :: value).dropWhile (· ≠ ':') = ':' :: ' ' :: value := by
    rw [List.dropWhile_append_of_pos hne]
    rfl
  have htake : (name ++ ':' :: ' ' :: value).takeWhile (· ≠ ':') = name := by
    rw [List.takeWhile_append_of_pos hne, List.takeWhile_cons_of_neg (by decide), List.append_nil]
  rw [field, hdrop, htake]
  rfl

theorem Reader.takeLine_field (r : Reader) (hname : ':' ∉ name) (value : List Char) :
    r.takeLine (name ++ ':' :: ' ' :: value) = r.takeField name value := by
  rw [takeLine, if_neg (by simp), field_of_name hname]

/-- A named event with its data on one line. -/
def eventFrame (kind data : List Char) : List Char :=
  block ["event".toList ++ ':' :: ' ' :: kind, "data".toList ++ ':' :: ' ' :: data]

def dataFrame (data : List Char) : List Char := block ["data".toList ++ ':' :: ' ' :: data]

def commentFrame (comment : List Char) : List Char := block [':' :: ' ' :: comment]

variable {kind data : List Char}

theorem oneLine_field (hname : OneLine name) (hvalue : OneLine value) :
    name ++ ':' :: ' ' :: value ≠ [] ∧ OneLine (name ++ ':' :: ' ' :: value) := by
  have hcolon : OneLine [':', ' '] := ⟨by decide, by decide⟩
  exact ⟨by simp, hname.append (hcolon.append hvalue)⟩

theorem yields_eventFrame (hne : kind ≠ []) (hkind : OneLine kind) (hdata : OneLine data) :
    Yields (eventFrame kind data) [⟨kind, data, []⟩] := by
  apply yields_block
  · rw [List.forall_mem_cons, List.forall_mem_singleton]
    exact ⟨oneLine_field ⟨by decide, by decide⟩ hkind, oneLine_field ⟨by decide, by decide⟩ hdata⟩
  · intro r hr
    rw [List.foldl_cons, List.foldl_cons, List.foldl_nil, Reader.takeLine_field _ (by decide),
      Reader.takeLine_field _ (by decide)]
    simp [Reader.takeField, Reader.dispatch, hr.kind, hr.data, hr.lastId, hne]

theorem yields_dataFrame (hdata : OneLine data) :
    Yields (dataFrame data) [⟨"message".toList, data, []⟩] := by
  apply yields_block
  · rw [List.forall_mem_singleton]
    exact oneLine_field ⟨by decide, by decide⟩ hdata
  · intro r hr
    rw [List.foldl_cons, List.foldl_nil, Reader.takeLine_field _ (by decide)]
    simp [Reader.takeField, Reader.dispatch, hr.kind, hr.data, hr.lastId]

theorem yields_commentFrame {comment : List Char} (hcomment : OneLine comment) :
    Yields (commentFrame comment) [] := by
  apply yields_block
  · rw [List.forall_mem_singleton]
    exact @oneLine_field [] comment ⟨by decide, by decide⟩ hcomment
  · intro r hr
    have hline : r.takeLine (':' :: ' ' :: comment) = r.takeField [] comment :=
      r.takeLine_field List.not_mem_nil comment
    rw [List.foldl_cons, List.foldl_nil, hline]
    simp [Reader.takeField, Reader.dispatch, hr.kind, hr.data]

end

end EventSource

end Salgil
