import RouteManifest.Proofs.Json.Spelling
import RouteManifest.Registry.Json
import RouteManifest.Report

/-!
The JSON of a registry loses nothing. A registry is read back from any spelling of its JSON, record
by record, with the readers that patterns and targets have of their own.
-/

namespace RouteManifest

open Json Json.Decoder

/-! ### A reader of registries -/

/-- Takes a list. -/
def listOf {α : Type} (item : Decoder α) : Decoder (List α) := do
  match ← peek with
  | some '[' => inList (allElements item true)
  | _ => wrongType "a sequence"

namespace Record

/-- What the members of a record have given so far. -/
structure Found where
  patterns? : Option (List Pattern) := none
  path? : Option String := none
  matchTarget : Option MatchTarget := none

/-- Takes a member of a record. No other members are allowed, and none twice. -/
def member (found : Found) (key : String) : Decoder Found := do
  colon
  if key = "match" ∧ found.patterns? = none then
    return { found with patterns? := some (← listOf Pattern.decoder) }
  else if key = "path" ∧ found.path? = none then
    return { found with path? := some (← Decoder.text "a string") }
  else if key = "matchTarget" ∧ found.matchTarget = none then
    return { found with matchTarget := some (← MatchTarget.decoder) }
  else mismatch (.unknownField key ["match", "path", "matchTarget"])

/-- The record that the members make. Only a target may be missing. -/
def ofFound (found : Found) : Decoder Record := do
  match found.patterns?, found.path? with
  | some patterns, some path => return ⟨patterns, path, found.matchTarget⟩
  | none, _ => mismatch (.missingField "match")
  | _, none => mismatch (.missingField "path")

def decoder : Decoder Record := do
  match ← peek with
  | some '{' => inObject (allMembers member {} >>= ofFound)
  | _ => wrongType "a record"

end Record

/-- Reads a registry from JSON text. -/
def Registry.ofJson (text : String) : Except Rejection Registry := (listOf Record.decoder).run text

/-! ### Texts and lists -/

theorem written_of_quote {α : Type} {decoder : Decoder α} {name : String} {value : α}
    (h : ∀ blank rest, IsBlank blank →
      decoder.Takes (blank ++ ((Text.quote name).toList ++ rest)) value rest) :
    Written decoder (Text.quote name).toList value :=
  ⟨⟨'"', _, toList_quote name, rfl, by decide⟩, h⟩

theorem takes_text {blank : List Char} (hblank : IsBlank blank) (expected value : String)
    (rest : List Char) :
    Takes (Decoder.text expected) (blank ++ ((Text.quote value).toList ++ rest)) value rest :=
  (takes_peek_quote hblank value).bind (takes_string value rest)

/-- A list is read from every spelling of an array if its items are. -/
theorem written_listOf {α : Type} {item : Decoder α} {toJson : α → Value} {xs : List α}
    {text : List Char}
    (hitem : ∀ x ∈ xs, ∀ text, Spelled (toJson x) text → Written item text x)
    (h : Spelled (.array (xs.map toJson)) text) : Written (listOf item) text xs := by
  cases h with
  | @array _ gap last write hgap hlast helements =>
    refine ⟨⟨'[', _, rfl, rfl, by decide⟩, fun blank rest hblank => ?_⟩
    have hwritten : ∀ x ∈ xs, Written item ((write ∘ toJson) x) (id x) := fun x hx =>
      hitem x hx _ (helements _ (List.mem_map_of_mem hx))
    have hall := takes_allElements hgap hlast hwritten true rest
    rw [List.map_id] at hall
    simp only [enclosed, List.cons_append, List.append_assoc, List.nil_append, List.map_map]
    exact (takes_peek hblank rfl).bind (hall.bracketed (takes_listEnd rest) '[')

/-! ### Targets and patterns -/

theorem written_target {target : MatchTarget} {text : List Char} (h : Spelled target.toJson text) :
    Written MatchTarget.decoder text target := by
  rw [eq_quote_of_spelled h]
  refine written_of_quote fun blank rest hblank => ?_
  have hnamed : Takes MatchTarget.named ((Text.quote target.word).toList ++ rest) target rest := by
    refine (@takes_text [] isBlank_nil _ target.word rest).bind ?_
    rw [MatchTarget.ofWord?_word]
    exact Takes.pure target rest
  exact (takes_peek_quote hblank target.word).bind hnamed

namespace Pattern

theorem find?_word (kind : Kind) : Kind.all.find? (·.word == kind.word) = some kind := by
  cases kind <;> decide

theorem takes_kind {blank : List Char} (hblank : IsBlank blank) (kind : Kind) (rest : List Char) :
    Takes Pattern.kind (blank ++ ((Text.quote kind.word).toList ++ rest)) kind rest := by
  refine (takes_text hblank _ kind.word rest).bind ?_
  rw [find?_word]
  exact Takes.pure kind rest

theorem takes_taggedMember {depth : Nat} {found : Tagged} {key : String} {value : Value}
    {space text : List Char}
    (hkey : (key == "kind") = false) (hspace : IsBlank space)
    (h : Written (Decoder.value depth) text value)
    (rest : List Char) :
    Takes (taggedMember depth found key) (':' :: (space ++ (text ++ rest)))
      { found with members := (key, value) :: found.members } rest := by
  rw [taggedMember, hkey]
  exact (takes_colon _).bind ((h.takes space rest hspace).bind (Takes.pure _ rest))

theorem takes_taggedMember_kind {depth : Nat} {found : Tagged} (hfound : found.kind? = none)
    {space : List Char}
    (hspace : IsBlank space) (kind : Kind) (rest : List Char) :
    Takes (taggedMember depth found "kind")
      (':' :: (space ++ ((Text.quote kind.word).toList ++ rest)))
      { found with kind? := some kind } rest := by
  rw [taggedMember, hfound]
  exact (takes_colon _).bind ((takes_kind hspace kind rest).bind (Takes.pure _ rest))

/-- The members are kept last first. -/
theorem folds_taggedMember {depth : Nat} {space : List Char} {write : Value → List Char}
    {members : List (String × Value)}
    (hspace : IsBlank space) (hkeys : ∀ m ∈ members, (m.1 == "kind") = false)
    (h : ∀ m ∈ members, Written (Decoder.value depth) (write m.2) m.2) (found : Tagged) :
    Folds (taggedMember depth) space found (members.map fun m => (m.1, write m.2))
      { found with members := members.reverse ++ found.members } := by
  induction members generalizing found with
  | nil => exact .nil
  | cons m members ih =>
    have hrest := ih (fun m' hm' => hkeys m' (List.mem_cons_of_mem m hm'))
      (fun m' hm' => h m' (List.mem_cons_of_mem m hm')) { found with members := m :: found.members }
    rw [List.map_cons, List.reverse_cons, List.append_assoc, List.singleton_append]
    exact .cons (takes_taggedMember (hkeys m List.mem_cons_self) hspace (h m List.mem_cons_self))
      hrest

/-- The members of a pattern. -/
def tagged (kind : Kind) (parts : List (String × String)) : List (String × Value) :=
  ("kind", .string kind.word) :: parts.map fun part => (part.1, .string part.2)

/-- A kind with texts behind it makes a pattern if they are its parts. -/
theorem written_tagged (kind : Kind) (parts : List (String × String)) {pattern : Pattern}
    {text : List Char}
    (h : Spelled (.object (tagged kind parts)) text)
    (hkeys : ∀ part ∈ parts, (part.1 == "kind") = false)
    (hparts : partsOfMembers kind (parts.map fun part => (part.1, .string part.2)) =
      .ok (parts.map (·.2)))
    (hpattern : kind.build (parts.map (·.2)) = some pattern) : Written decoder text pattern := by
  cases h with
  | @object _ gap space last write hgap hspace hlast hmembers =>
    refine ⟨⟨'{', _, rfl, rfl, by decide⟩, fun blank rest hblank => ?_⟩
    have hword := eq_quote_of_spelled (hmembers _ List.mem_cons_self)
    have hkind : ∀ rest, Takes (taggedMember (depthLimit - 1) {} "kind")
        (':' :: (space ++ (write (.string kind.word) ++ rest))) { kind? := some kind } rest := by
      rw [hword]
      exact takes_taggedMember_kind rfl hspace kind
    have htexts : ∀ m ∈ parts.map fun part => (part.1, Value.string part.2),
        (m.1 == "kind") = false ∧
        Written (Decoder.value (depthLimit - 1)) (write m.2) m.2 := by
      intro m hm
      have hspelled := hmembers m (List.mem_cons_of_mem _ hm)
      obtain ⟨part, hpart, rfl⟩ := List.mem_map.1 hm
      exact ⟨hkeys part hpart, written_value hspelled .string⟩
    have hrest := folds_taggedMember hspace (fun m hm => (htexts m hm).1)
      (fun m hm => (htexts m hm).2)
      { kind? := some kind }
    have hfolds : Folds (taggedMember (depthLimit - 1)) space {}
        ((tagged kind parts).map fun m => (m.1, write m.2)) _ :=
      .cons hkind hrest
    have hall := takes_allMembers hgap hlast hfolds rest
    rw [List.map_map] at hall
    -- The kind and its parts are taken together, since the reader only checks them behind the
    -- closing brace.
    have hboth : Takes kindAndParts
        (blank ++ '{' :: (joined gap true ((tagged kind parts).map fun m =>
        memberText space (m.1, write m.2)) ++ (last ++ '}' :: rest)))
            (kind, .ok (parts.map (·.2))) rest := by
      refine (takes_peek hblank rfl).bind
        (Takes.bracketed (hall.bind ?_) (takes_objectEnd rest) '{')
      dsimp only
      rw [List.append_nil, List.reverse_reverse, hparts]
      exact Takes.pure _ _
    simp only [enclosed, List.cons_append, List.append_assoc, List.nil_append]
    refine hboth.bind ?_
    dsimp only
    rw [hpattern]
    exact Takes.pure pattern rest

/-- A pattern is read from every spelling of its JSON. -/
theorem written_pattern {pattern : Pattern} {text : List Char} (h : Spelled pattern.toJson text) :
    Written decoder text pattern := by
  cases pattern with
  | literal value => exact written_tagged .literal [("text", value)] h (by simp) rfl rfl
  | regex source flags =>
      exact written_tagged .regex [("source", source), ("flags", flags)] h (by simp) rfl rfl

end Pattern

/-! ### Records and registries -/

namespace Record

section
variable {found : Found} {space text : List Char}

theorem takes_member_match (hfound : found.patterns? = none) (hspace : IsBlank space)
    {patterns : List Pattern}
    (h : Written (listOf Pattern.decoder) text patterns) (rest : List Char) :
    Takes (member found "match") (':' :: (space ++ (text ++ rest)))
      { found with patterns? := some patterns } rest := by
  refine (takes_colon _).bind ?_
  rw [if_pos ⟨rfl, hfound⟩]
  exact (h.takes space rest hspace).bind (Takes.pure _ rest)

theorem takes_member_path (hfound : found.path? = none) (hspace : IsBlank space) (path : String)
    (rest : List Char) :
    Takes (member found "path") (':' :: (space ++ ((Text.quote path).toList ++ rest)))
      { found with path? := some path }
      rest := by
  refine (takes_colon _).bind ?_
  rw [if_neg (by simp), if_pos ⟨rfl, hfound⟩]
  exact (takes_text hspace _ path rest).bind (Takes.pure _ rest)

theorem takes_member_target (hfound : found.matchTarget = none) (hspace : IsBlank space)
    {target : MatchTarget}
    (h : Written MatchTarget.decoder text target) (rest : List Char) :
    Takes (member found "matchTarget") (':' :: (space ++ (text ++ rest)))
      { found with matchTarget := some target }
      rest := by
  refine (takes_colon _).bind ?_
  rw [if_neg (by simp), if_neg (by simp), if_pos ⟨rfl, hfound⟩]
  exact (h.takes space rest hspace).bind (Takes.pure _ rest)

end

/-- A record is read from every spelling of its JSON. -/
theorem written_record {record : Record} {text : List Char} (h : Spelled record.toJson text) :
    Written decoder text record := by
  obtain ⟨patterns, path, matchTarget⟩ := record
  cases h with
  | @object _ gap space last write hgap hspace hlast hmembers =>
    refine ⟨⟨'{', _, rfl, rfl, by decide⟩, fun blank rest hblank => ?_⟩
    have hpatterns : Written (listOf Pattern.decoder)
        (write (.array (patterns.map Pattern.toJson))) patterns :=
      written_listOf (fun _ _ _ => Pattern.written_pattern) (hmembers ("match", _) (by simp))
    have hpath : write (.string path) = (Text.quote path).toList :=
      eq_quote_of_spelled (hmembers ("path", _) (by simp))
    have hboth : ∀ entries final,
        Folds member space ⟨some patterns, some path, none⟩ entries final →
        Folds member space {} (("match", write (.array (patterns.map Pattern.toJson))) ::
          ("path", write (.string path)) :: entries) final := by
      intro entries final hentries
      rw [hpath]
      exact .cons (takes_member_match rfl hspace hpatterns)
        (.cons (takes_member_path rfl hspace path) hentries)
    have hfolds : Folds member space {} ((("match", Value.array (patterns.map Pattern.toJson)) ::
        ("path", Value.string path) ::
          (matchTarget.map fun target => ("matchTarget", target.toJson)).toList).map
          fun m => (m.1, write m.2)) ⟨some patterns, some path, matchTarget⟩ := by
      cases matchTarget with
      | none => exact hboth _ _ .nil
      | some target =>
        have htarget := written_target (hmembers ("matchTarget", target.toJson) (by simp))
        exact hboth _ _ (.cons (takes_member_target rfl hspace htarget) .nil)
    have hall := takes_allMembers hgap hlast hfolds rest
    rw [List.map_map] at hall
    have hrecord : Takes (ofFound ⟨some patterns, some path, matchTarget⟩) ('}' :: rest)
        ⟨patterns, path, matchTarget⟩
        ('}' :: rest) := Takes.pure _ _
    simp only [enclosed, List.cons_append, List.append_assoc, List.nil_append]
    exact (takes_peek hblank rfl).bind ((hall.bind hrecord).bracketed (takes_objectEnd rest) '{')

end Record

theorem fits_pattern (depth : Nat) (pattern : Pattern) : Fits (depth + 2) pattern.toJson := by
  have htext : ∀ value, Fits (depth + 1) (.string value) := fun _ => .string
  cases pattern with
  | literal value => exact .object (by simp [htext])
  | regex source flags => exact .object (by simp [htext])

theorem fits_record (depth : Nat) (record : Record) : Fits (depth + 4) record.toJson := by
  refine .object fun m hm => ?_
  rcases List.mem_append.1 hm with hm | hm
  · rcases List.mem_cons.1 hm with rfl | hm
    · refine .array fun value hvalue => ?_
      obtain ⟨pattern, -, rfl⟩ := List.mem_map.1 hvalue
      exact fits_pattern depth pattern
    · rw [List.mem_singleton.1 hm]
      exact .string
  · obtain ⟨target, -, rfl⟩ := Option.map_eq_some_iff.1 (Option.mem_toList.1 hm)
    exact .string

theorem fits_registry (depth : Nat) (registry : Registry) : Fits (depth + 5) registry.toJson := by
  refine .array fun value hvalue => ?_
  obtain ⟨record, -, rfl⟩ := List.mem_map.1 hvalue
  exact fits_record depth record

/-- The text is JSON, an array with an item for each record in order, and the registry is read from
it. -/
def Registry.IsReadFrom (registry : Registry) (text : String) : Prop :=
  (value depthLimit).run text = .ok (.array (registry.map Record.toJson)) ∧
    Registry.ofJson text = .ok registry

theorem isReadFrom_of_spelled {registry : Registry} {text after : List Char}
    (h : Spelled registry.toJson text)
    (hafter : IsBlank after) : registry.IsReadFrom (String.ofList (text ++ after)) := by
  have hrecords : Written (listOf Record.decoder) text registry :=
    written_listOf (fun _ _ _ => Record.written_record) h
  -- A registry is five values deep, and the reader follows 128 of them.
  exact ⟨(written_value h (fits_registry 123 registry)).run hafter, hrecords.run hafter⟩

namespace Pattern

theorem ofJson_compact (pattern : Pattern) : ofJson pattern.toJson.compact = .ok pattern := by
  have h := (written_pattern (spelled_compact pattern.toJson)).run isBlank_nil
  rwa [List.append_nil, String.ofList_toList] at h

/-- The JSON of the pattern that a text is read to, on one line. -/
def normalised (text : String) : Except Rejection String := (ofJson text).map (·.toJson.compact)

theorem normalised_normalised (text : String) :
    (normalised text >>= normalised) = normalised text := by
  rw [normalised]
  cases ofJson text with
  | error rejection => rfl
  | ok pattern =>
    change normalised pattern.toJson.compact = .ok pattern.toJson.compact
    rw [normalised, ofJson_compact]
    rfl

end Pattern

/-- The JSON listing is lossless. It is an array with an object for each record. Read back, it is
the registry that was listed, also with the line end that the command writes behind it. A pattern
alone is read back from one line, so what its reader accepts is written anew only once. -/
theorem Registry.ofJson_listing :
    (∀ (registry : Registry) (report : Report) (coloured : Bool),
      registry.IsReadFrom (registry.toJson.pretty 0) ∧
      registry.IsReadFrom
        ({ report with summary := .listed registry true }.output.render coloured)) ∧
    (∀ record : Record, ∃ members, record.toJson = .object members) ∧
    (∀ pattern : Pattern, Pattern.ofJson pattern.toJson.compact = .ok pattern) ∧
    (∀ text, (Pattern.normalised text >>= Pattern.normalised) = Pattern.normalised text) := by
  refine ⟨?_, fun record => ⟨_, rfl⟩, Pattern.ofJson_compact, Pattern.normalised_normalised⟩
  intro registry report coloured
  have hspelled := spelled_pretty registry.toJson 0
  constructor
  · have hread := isReadFrom_of_spelled hspelled isBlank_nil
    rwa [List.append_nil, String.ofList_toList] at hread
  · have hend : IsBlank ['\n'] := isBlank_singleton rfl
    have hread := isReadFrom_of_spelled hspelled hend
    have hprinted : registry.toJson.pretty 0 ++ "\n" =
        String.ofList ((registry.toJson.pretty 0).toList ++ ['\n']) := by
      rw [String.ofList_append, String.ofList_toList]
    rw [Report.output, Text.Styled.render_plain, hprinted]
    exact hread

end RouteManifest
