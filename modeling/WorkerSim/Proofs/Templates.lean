import WorkerSim.Proofs.RoundTrip

/-!
# Templates

A template is a document under headers in which placeholders may stand for values. If the environment
has the literals of all of them, the template is read as the document itself. A placeholder whose name
has no text stays where it is, and where it stays there is no document, whatever the name is.
-/

set_option autoImplicit false

namespace WorkerSim

/-! ### Substitution part by part -/

namespace Placeholder

/-- A name as it can stand between braces. -/
structure Name where
  chars : List Char
  ne_nil : chars ≠ []
  not_mem : '\x7d' ∉ chars

variable {value? : List Char → Option (List Char)} {cs cs' ds ds' : List Char}

theorem hole?_source (n : Name) (rest : List Char) :
    hole? ((Piece.hole n.chars).source ++ rest) = some (n.chars, rest) := by
  have hInside : ∀ c ∈ n.chars, (c != '\x7d') = true := by
    intro c hMem
    exact bne_iff_ne.mpr fun hSame => n.not_mem (hSame ▸ hMem)
  obtain ⟨hTake, hDrop⟩ := Toml.stretch_append hInside (bne_self_eq_false '\x7d') rest
  rw [Piece.source, List.cons_append, List.cons_append, List.append_assoc, List.singleton_append, hole?,
    hDrop, hTake]
  exact if_neg fun hEmpty => n.ne_nil (List.isEmpty_iff.mp hEmpty)

theorem pieces_hole (n : Name) (rest : List Char) :
    pieces ((Piece.hole n.chars).source ++ rest) = .hole n.chars :: pieces rest := by
  have hHole := hole?_source n rest
  obtain ⟨c, cs, hSource⟩ : ∃ c cs, (Piece.hole n.chars).source ++ rest = c :: cs := ⟨_, _, rfl⟩
  rw [hSource] at hHole ⊢
  rw [pieces]
  split
  · rename_i name after hSome
    obtain ⟨rfl, rfl⟩ := Prod.mk.inj (Option.some.inj (hHole.symm.trans hSome))
    rfl
  · rename_i hNone
    cases hHole.symm.trans hNone

/-- What a text becomes, whatever follows it. -/
def Becomes (value? : List Char → Option (List Char)) (cs cs' : List Char) : Prop :=
  ∀ rest, substitute value? (cs ++ rest) = cs' ++ substitute value? rest

theorem becomes_self (h : '$' ∉ cs) : Becomes value? cs cs := substitute_append value? h

theorem becomes_hole (n : Name) :
    Becomes value? (Piece.hole n.chars).source ((Piece.hole n.chars).expand value?) := by
  intro rest
  rw [substitute, pieces_hole, List.flatMap_cons]
  rfl

namespace Becomes

theorem append (h : Becomes value? cs cs') (h' : Becomes value? ds ds') :
    Becomes value? (cs ++ ds) (cs' ++ ds') := by
  intro rest
  rw [List.append_assoc, h, h', List.append_assoc]

theorem flatMap {ρ : Type} {rows : List ρ} {chars chars' : ρ → List Char}
    (h : ∀ row ∈ rows, Becomes value? (chars row) (chars' row)) :
    Becomes value? (rows.flatMap chars) (rows.flatMap chars') := by
  induction rows with
  | nil => exact fun _ => rfl
  | cons row rows ih =>
    obtain ⟨hRow, hRows⟩ := List.forall_mem_cons.mp h
    exact hRow.append (ih hRows)

theorem substitute_eq (h : Becomes value? cs cs') : substitute value? cs = cs' := by
  have hNil := substitute_eq_self value? (List.not_mem_nil : '$' ∉ [])
  have hAll := h []
  rwa [hNil, List.append_nil, List.append_nil] at hAll

end Becomes

end Placeholder

/-! ### Texts that are no documents -/

namespace Toml

variable {most : Nat} {text more : List Char} {P : List Statement → Prop}

/-- The lines of a text cannot all be read, whatever follows. -/
def Breaks (most : Nat) (text : List Char) : Prop :=
  ∀ lines rest, (text ++ rest).length ≤ lines → Statement.readLines? most lines (text ++ rest) = none

theorem Reads.mono {Q : List Statement → Prop} (h : Reads most text P) (hAll : ∀ a, P a → Q a) :
    Reads most text Q := by
  intro lines rest hLines
  obtain ⟨statements, left, hStatements, hRest⟩ := h lines rest hLines
  exact ⟨statements, left, hAll statements hStatements, hRest⟩

namespace Reads

theorem join {Q : List Statement → Prop} (h : Reads most text P) (hMore : Reads most more Q) :
    Reads most (text ++ more) fun _ => True :=
  h.append hMore fun _ _ _ _ => trivial

theorem joinAll {ρ : Type} {rows : List ρ} {chars : ρ → List Char}
    (h : ∀ row ∈ rows, Reads most (chars row) fun _ => True) :
    Reads most (rows.flatMap chars) fun _ => True := by
  induction rows with
  | nil => exact Reads.nil trivial
  | cons row rows ih =>
    obtain ⟨hRow, hRows⟩ := List.forall_mem_cons.mp h
    exact hRow.join (ih hRows)

theorem breaks (h : Reads most text P) (hMore : Breaks most more) :
    Breaks most (text ++ more) := by
  intro lines rest hLines
  rw [List.append_assoc] at hLines ⊢
  obtain ⟨statements, left, -, hLeft, hRead⟩ := h lines (more ++ rest) hLines
  rw [hRead, hMore left rest hLeft]
  rfl

end Reads

namespace Breaks

theorem append (h : Breaks most text) (more : List Char) : Breaks most (text ++ more) := by
  intro lines rest hLines
  rw [List.append_assoc] at hLines ⊢
  exact h lines (more ++ rest) hLines

theorem line (hSome : text ≠ []) (h : ∀ rest, Statement.read? most (text ++ rest) = none) :
    Breaks most text := by
  intro lines rest _
  have hSome : text ++ rest ≠ [] := List.append_ne_nil_of_left_ne_nil hSome rest
  cases lines with
  | zero =>
    rw [Statement.readLines?]
    exact hSome
  | succ lines =>
    rw [Statement.readLines?, h rest]
    exact hSome

/-- The first row that cannot be read decides. -/
theorem flatMap {ρ : Type} {rows : List ρ} {chars : ρ → List Char}
    (h : ∀ row ∈ rows, Reads most (chars row) (fun _ => True) ∨ Breaks most (chars row))
    (hSome : ∃ row ∈ rows, Breaks most (chars row)) : Breaks most (rows.flatMap chars) := by
  induction rows with
  | nil =>
    obtain ⟨row, hMem, -⟩ := hSome
    cases hMem
  | cons row rows ih =>
    obtain ⟨hRow, hRows⟩ := List.forall_mem_cons.mp h
    rw [List.flatMap_cons]
    obtain hReads | hBreaks := hRow
    · obtain ⟨bad, hMem, hBad⟩ := hSome
      obtain rfl | hMem := List.mem_cons.mp hMem
      · exact hBad.append _
      · exact hReads.breaks (ih hRows ⟨bad, hMem, hBad⟩)
    · exact hBreaks.append _

theorem readAll?_eq_none (h : ∀ most, Breaks most text) : Statement.readAll? text = none := by
  have hLines := h text.length text.length []
  rw [List.append_nil] at hLines
  exact hLines (Nat.le_refl _)

end Breaks

/-- A dollar sign in front of a brace ends there, and alone it is no value. -/
theorem Scalar.read?_dollar (rest : List Char) : Scalar.read? ('$' :: '\x7b' :: rest) = none := by
  have hDollar : ∀ c ∈ ['$'], isPlainEnd c = false := List.forall_mem_singleton.mpr rfl
  have hPlain := plain_append hDollar (closes_of_end (c := '\x7b') (by decide) (by decide) rest)
  rw [List.singleton_append] at hPlain
  rw [Scalar.read?, if_neg (by decide), if_neg (by decide), hPlain]
  rfl

theorem BareKey.read?_dollar (k : BareKey) (rest : List Char) :
    Statement.read? most (k.chars ++ (" = ".toList ++ '$' :: '\x7b' :: rest)) = none := by
  have hPath : path? pathLimit (k.chars ++ ' ' :: '=' :: ' ' :: '$' :: '\x7b' :: rest) = _ :=
    k.path?_append (by decide) rfl (by decide) 79
  have hValue : value? most depthLimit ('$' :: '\x7b' :: rest) = none := by
    rw [depthLimit, value?, value?.single, Scalar.read?_dollar]
    · rfl
    · intro _ hSame
      cases hSame
    · intro _ hSame
      cases hSame
  have hGap : afterSpaces ('$' :: '\x7b' :: rest) = '$' :: '\x7b' :: rest := afterSpaces_cons rfl _
  obtain ⟨c, cs, hChars, hBare⟩ := k.exists_cons
  rw [equals_append]
  rw [hChars, List.cons_append] at hPath ⊢
  rw [read?_of_bare hBare, pair?, hPath]
  simp only [passes_afterSpaces.equals, passes_afterSpaces.space, hGap, hValue, Option.map_none]

end Toml

/-! ### Templates -/

namespace Config

open Toml Placeholder

/-- A setting, and the name of the placeholder that stands for its literal, if there is one. -/
structure Slot where
  setting : Setting
  name? : Option Name

namespace Slot

def literal (s : Slot) : List Char := s.setting.key.literal s.setting.value

def source (s : Slot) : List Char :=
  s.name?.elim s.literal fun n => (Piece.hole n.chars).source

def expand (value? : List Char → Option (List Char)) (s : Slot) : List Char :=
  s.name?.elim s.literal fun n => (Piece.hole n.chars).expand value?

/-- The placeholder's variable, if there is a placeholder, is set to the literal. -/
def Given (env : Environment) (s : Slot) : Prop :=
  ∀ n ∈ s.name?, env.get? n.chars = some (Text.Utf8.encode s.literal)

/-- There is a placeholder whose variable is not set, or not to a text. -/
def Missing (env : Environment) (s : Slot) : Prop :=
  ∃ n ∈ s.name?, ∀ bytes, env.get? n.chars = some bytes → Text.Utf8.decode? bytes = none

end Slot

/-- Tables under headers. -/
abbrev Template := List (Sheet Table Slot)

namespace Template

def slots (t : Template) : List Slot := t.flatMap Sheet.assigned

/-- The document that has the literals in place of all placeholders. -/
def draft (t : Template) : Config.Draft := ⟨[], t.map (Sheet.map id Slot.setting)⟩

def lines (value : Slot → List Char) (s : Sheet Table Slot) : List Char :=
  heading s.table.name ++ s.assigned.flatMap (fun slot => line slot.setting.name (value slot)) ++
    List.replicate s.gap '\n'

def textWith (value : Slot → List Char) (t : Template) : List Char := t.flatMap (lines value)

def text (t : Template) : List Char := t.textWith Slot.source

variable {t : Template} {env : Environment}

theorem dollar_not_mem_literal (s : Slot) : '$' ∉ s.literal := by
  intro hMem
  cases s.setting.key.isBareKeyChar_of_literal s.setting.value '$' hMem

theorem becomes_expand (value? : List Char → Option (List Char)) (s : Slot) :
    Becomes value? s.source (s.expand value?) := by
  obtain ⟨setting, name?⟩ := s
  cases name? with
  | none => exact becomes_self (dollar_not_mem_literal ⟨setting, none⟩)
  | some n => exact becomes_hole n

theorem substitute_text (value? : List Char → Option (List Char)) (t : Template) :
    substitute value? t.text = t.textWith (Slot.expand value?) := by
  have hTable (s : Sheet Table Slot) : '$' ∉ heading s.table.name := by
    cases s.table <;> decide
  have hKey (s : Slot) : '$' ∉ s.setting.name.toList ++ " = ".toList := by
    have hName : '$' ∉ s.setting.name.toList := s.setting.key.bareKey.not_mem (by decide)
    exact fun hMem => (List.mem_append.mp hMem).elim hName (by decide)
  have hGap (s : Sheet Table Slot) : '$' ∉ List.replicate s.gap '\n' :=
    fun hMem => nomatch List.eq_of_mem_replicate hMem
  apply Becomes.substitute_eq
  apply Becomes.flatMap
  intro s _
  apply ((becomes_self (hTable s)).append _).append (becomes_self (hGap s))
  apply Becomes.flatMap
  intro slot _
  exact ((becomes_self (hKey slot)).append (becomes_expand value? slot)).append (becomes_self (by decide))

theorem textWith_literal (t : Template) : t.textWith Slot.literal = t.draft.written.text := by
  rw [Toml.Draft.text, Draft.written, Toml.Draft.map, draft]
  simp only [List.map_nil, List.flatMap_nil, List.nil_append, List.map_map, List.flatMap_map]
  refine List.flatMap_congr fun s _ => ?_
  rw [Function.comp_apply, text_sheet, lines, Sheet.map, List.flatMap_map]
  rfl

theorem text?_of_given {s : Slot} (h : s.Given env) : s.expand env.text? = s.literal := by
  obtain ⟨setting, name?⟩ := s
  cases name? with
  | none => rfl
  | some n =>
    have hText : env.text? n.chars = some (Slot.literal ⟨setting, some n⟩) := by
      rw [Environment.text?, h n rfl, Option.bind_some, Text.Utf8.decode?_encode]
    simp only [Slot.expand, Option.elim_some, Piece.expand, hText, Option.getD_some]

theorem source_of_missing {s : Slot} (h : s.Missing env) :
    ∃ rest, s.expand env.text? = '$' :: '\x7b' :: rest := by
  obtain ⟨n, hName, hNone⟩ := h
  obtain ⟨setting, name?⟩ := s
  obtain rfl := Option.mem_def.mp hName
  have hText : env.text? n.chars = none := by
    rw [Environment.text?]
    cases hGet : env.get? n.chars with
    | none => rfl
    | some bytes => exact hNone bytes hGet
  exact ⟨n.chars ++ ['\x7d'], by simp [Slot.expand, Piece.expand, hText, Piece.source]⟩

section Lines

variable {most : Nat}

theorem reads_given {s : Slot} (h : s.Given env) :
    Reads most (line s.setting.name (s.expand env.text?)) fun _ => True := by
  rw [text?_of_given h]
  exact (s.setting.assignment.reads).mono fun _ _ => trivial

theorem breaks_missing {s : Slot} (h : s.Missing env) :
    Breaks most (line s.setting.name (s.expand env.text?)) := by
  obtain ⟨rest, hSource⟩ := source_of_missing h
  apply Breaks.line
  · simp [line]
  · intro more
    rw [hSource, line, List.append_assoc, List.append_assoc, List.append_assoc]
    exact s.setting.key.bareKey.read?_dollar _

variable {s : Sheet Table Slot}

theorem reads_lines (h : ∀ slot ∈ s.assigned, slot.Given env) :
    Reads most (lines (Slot.expand env.text?) s) fun _ => True := by
  have hSlots : Reads most
      (s.assigned.flatMap fun slot => line slot.setting.name (slot.expand env.text?)) fun _ => True :=
    Reads.joinAll fun slot hMem => reads_given (h slot hMem)
  exact ((Sheet.reads_header s.table.bareKey).join hSlots).join (Reads.blanks s.gap)

theorem breaks_lines (h : ∀ slot ∈ s.assigned, slot.Given env ∨ slot.Missing env)
    (hSome : ∃ slot ∈ s.assigned, slot.Missing env) :
    Breaks most (lines (Slot.expand env.text?) s) := by
  have hSlots : Breaks most
      (s.assigned.flatMap fun slot => line slot.setting.name (slot.expand env.text?)) := by
    apply Breaks.flatMap
    · intro slot hMem
      exact (h slot hMem).imp reads_given breaks_missing
    · obtain ⟨slot, hMem, hMissing⟩ := hSome
      exact ⟨slot, hMem, breaks_missing hMissing⟩
  exact ((Sheet.reads_header s.table.bareKey).breaks hSlots).append _

theorem breaks_text (h : ∀ slot ∈ t.slots, slot.Given env ∨ slot.Missing env)
    (hSome : ∃ slot ∈ t.slots, slot.Missing env) :
    Breaks most (t.textWith (Slot.expand env.text?)) := by
  have hSlots {s : Sheet Table Slot} (hSheet : s ∈ t) :
      ∀ slot ∈ s.assigned, slot.Given env ∨ slot.Missing env :=
    fun slot hMem => h slot (List.mem_flatMap.mpr ⟨s, hSheet, hMem⟩)
  apply Breaks.flatMap
  · intro s hSheet
    by_cases hAny : ∃ slot ∈ s.assigned, slot.Missing env
    · exact .inr (breaks_lines (hSlots hSheet) hAny)
    · push Not at hAny
      exact .inl (reads_lines fun slot hMem => (hSlots hSheet slot hMem).resolve_right (hAny slot hMem))
  · obtain ⟨slot, hMem, hMissing⟩ := hSome
    obtain ⟨s, hSheet, hAssigned⟩ := List.mem_flatMap.mp hMem
    exact ⟨s, hSheet, breaks_lines (hSlots hSheet) ⟨slot, hAssigned, hMissing⟩⟩

end Lines

/-- A template begins with a bracket, so nothing of it is passed over. -/
theorem afterByteOrderMark_textWith (value : Slot → List Char) (t : Template) :
    Document.afterByteOrderMark (t.textWith value) = t.textWith value := by
  cases t with
  | nil => rfl
  | cons s t => rfl

end Template

variable {t : Template} {env : Environment}

theorem ofText_of_given (h : ∀ slot ∈ t.slots, slot.Given env) :
    Config.ofText env t.text = Config.ofText env t.draft.written.text := by
  have hDollar : '$' ∉ t.draft.written.text := Draft.Spells.not_mem_text (by decide) (by decide)
  have hExpand : t.textWith (Slot.expand env.text?) = t.textWith Slot.literal := by
    refine List.flatMap_congr fun s hSheet => ?_
    have hLines : (s.assigned.flatMap fun slot => line slot.setting.name (slot.expand env.text?)) =
        s.assigned.flatMap fun slot => line slot.setting.name slot.literal := by
      refine List.flatMap_congr fun slot hMem => ?_
      rw [Template.text?_of_given (h slot (List.mem_flatMap.mpr ⟨s, hSheet, hMem⟩))]
    rw [Template.lines, Template.lines, hLines]
  rw [Config.ofText, Template.substitute_text, hExpand, Template.textWith_literal, Config.ofText,
    substitute_eq_self _ hDollar]

theorem ofText_of_missing (h : ∀ slot ∈ t.slots, slot.Given env ∨ slot.Missing env)
    (hSome : ∃ slot ∈ t.slots, slot.Missing env) :
    Config.ofText env t.text = .error (.config .notToml) := by
  have hRead : Statement.readAll? (t.textWith (Slot.expand env.text?)) = none :=
    Breaks.readAll?_eq_none fun _ => Template.breaks_text h hSome
  rw [Config.ofText, Template.substitute_text, Config.ofDocument, Document.ofText?,
    Template.afterByteOrderMark_textWith, hRead]
  rfl

/-- A template whose placeholders are set to the literals of a document is read as the document, and
one with a placeholder that is not set is no document. -/
theorem ofText_template {p : Config.Partial} (hSpells : t.draft.Spells p) (env : Environment) :
    ((∀ slot ∈ t.slots, slot.Given env) → Config.ofText env t.text = .ok p.config ∧
      ∀ env', Config.ofText env' t.draft.written.text = .ok p.config) ∧
    ((∀ slot ∈ t.slots, slot.Given env ∨ slot.Missing env) → (∃ slot ∈ t.slots, slot.Missing env) →
      Config.ofText env t.text = .error (.config .notToml)) := by
  have hLiteral (env' : Environment) : Config.ofText env' t.draft.written.text = .ok p.config := by
    rw [Config.ofText_eq_map, hSpells.ofText_eq]
    rfl
  refine ⟨fun hGiven => ⟨?_, hLiteral⟩, ofText_of_missing⟩
  rw [ofText_of_given hGiven, hLiteral]

/-- A name may hold a line end, a dollar sign, a brace and a comment sign. -/
theorem ofText_of_two_names :
    let three : Name := ⟨"A\n$\x7b#".toList, by decide, by decide⟩
    let yes : Name := ⟨"B".toList, by decide, by decide⟩
    let t : Template := [
      ⟨.recovered, [⟨.number .heartbeats 3, some three⟩, ⟨.number .intervalMs 0, none⟩], 1⟩,
      ⟨.logging, [⟨.flag .json true, some yes⟩], 0⟩]
    let p : Config.Partial := ⟨⟨none, none, none⟩, ⟨some 3, some 0⟩, ⟨none, some true⟩, ⟨none⟩⟩
    let env : Environment := [(three.chars, Text.Utf8.encode "3".toList)]
    t.draft.Spells p ∧ Config.ofText env t.text = .error (.config .notToml) ∧
      Config.ofText (env.set yes.chars (Text.Utf8.encode "true".toList)) t.text =
        .ok ⟨{}, ⟨3, 0⟩, ⟨false, true⟩, {}⟩ := by
  intro three yes t p env
  have hAssigned : t.draft.assigned = [(.recovered, .number .heartbeats 3),
      (.recovered, .number .intervalMs 0), (.logging, .flag .json true)] := rfl
  have hSpells : t.draft.Spells p := by
    constructor
    · apply Draft.mem_assigned_iff_sets
      · intro u s hMem
        simp only [hAssigned, List.mem_cons, List.not_mem_nil, or_false, Prod.mk.injEq] at hMem
        obtain ⟨rfl, rfl⟩ | ⟨rfl, rfl⟩ | ⟨rfl, rfl⟩ := hMem <;> exact ⟨rfl, rfl⟩
      · intro k hSome
        change k ∈ [Key.number .heartbeats, .number .intervalMs, .flag .json]
        rcases k with k | k <;> cases k <;> first | exact absurd rfl hSome | decide
    · change ([.number .heartbeats, .number .intervalMs, .flag .json] : List Key).Nodup
      decide
    · change [Table.recovered, .logging].Nodup
      decide
    · intro u s hMem
      simp [Toml.Draft.parts, Template.draft, t, Toml.Sheet.part] at hMem
  have hSlots : t.slots = [⟨.number .heartbeats 3, some three⟩, ⟨.number .intervalMs 0, none⟩,
      ⟨.flag .json true, some yes⟩] := rfl
  have hThree (env' : Environment) (h : env'.get? three.chars = some (Text.Utf8.encode "3".toList)) :
      Slot.Given env' ⟨.number .heartbeats 3, some three⟩ := by
    have hLiteral : Slot.literal ⟨.number .heartbeats 3, some three⟩ = "3".toList := Nat.toDigits_of_lt_base (by decide)
    rintro _ ⟨⟩
    rw [hLiteral]
    exact h
  have hMissing : Slot.Missing env ⟨.flag .json true, some yes⟩ := by
    refine ⟨yes, rfl, ?_⟩
    rintro _ ⟨⟩
  refine ⟨hSpells, (ofText_template hSpells env).2 ?_ ⟨_, ?_, hMissing⟩,
    ((ofText_template hSpells (env.set yes.chars (Text.Utf8.encode "true".toList))).1 ?_).1⟩
  · rw [hSlots]
    simp only [List.forall_mem_cons]
    exact ⟨.inl (hThree env rfl), .inl (by rintro _ ⟨⟩), .inr hMissing, List.forall_mem_nil _⟩
  · simp [hSlots]
  · rw [hSlots]
    simp only [List.forall_mem_cons]
    refine ⟨hThree _ rfl, by rintro _ ⟨⟩, ?_, List.forall_mem_nil _⟩
    rintro _ ⟨⟩
    rfl

end Config

end WorkerSim
