import RouteManifest.Proofs.Config.Nearest
import RouteManifest.Proofs.FileSystem.Writing
import RouteManifest.Proofs.Json.Spelling
import RouteManifest.Proofs.Json.Unambiguous

/-!
Which texts are configurations. The grammar of JSON tells what a text holds, and of that only an
object with at most one member, `paths`, and an array with at most one element describe a
configuration.
-/

namespace RouteManifest.Config

open Json Json.Decoder

/-! ### What describes a configuration -/

/-- A list of texts as a JSON value. -/
def listed (paths : List String) : Term := .array (paths.map .string)

/-- The term describes the configuration with these directories. -/
inductive Describes : Term → List String → Prop
  | noMember : Describes (.object []) ["src"]
  | member {paths} : Describes (.object [("paths", listed paths)]) paths
  | noElement : Describes (.array []) ["src"]
  | element {paths} : Describes (.array [listed paths]) paths

/-- Terms that no configuration is written as: no value, a single text, an unknown key, and the
known key twice. -/
inductive Foreign : Term → Prop
  | null : Foreign .null
  | string {text} : Foreign (.string text)
  | unknown {members key x} (h : (key, x) ∈ members) (hkey : key ≠ "paths") :
      Foreign (.object members)
  | repeated {members} (h : 1 < members.countP (·.1 == "paths")) : Foreign (.object members)

theorem Describes.not_foreign {term : Term} {paths : List String} (h : Describes term paths) :
    ¬Foreign term := by
  cases h with
  | noMember =>
    intro hforeign
    cases hforeign with
    | unknown hmem => cases hmem
    | repeated hcount => cases hcount
  | member =>
    intro hforeign
    cases hforeign with
    | unknown hmem hkey => exact hkey (Prod.mk.inj (List.mem_singleton.1 hmem)).1
    | repeated hcount => simp at hcount
  | noElement | element => nofun

/-! ### Lists of texts -/

section
variable {text front rest : List Char} {paths : List String}

theorem parses_listed_iff :
    Parses (listed paths) text rest ↔
      ∃ inner, Gap text ('[' :: inner) ∧ Listing ParsesString ']' true paths inner rest := by
  simp only [listed, parses_array_iff, Listing.map_iff parses_string_iff]

theorem parses_listed_of_gap (hgap : Gap text front) (h : Parses (listed paths) front rest) :
    Parses (listed paths) text rest := by
  obtain ⟨inner, hfront, hpaths⟩ := parses_listed_iff.1 h
  exact parses_listed_iff.2 ⟨inner, hgap.trans hfront, hpaths⟩

theorem takes_pathsDecoder_iff : Takes pathsDecoder text paths rest ↔
    Parses (listed paths) text rest := by
  rw [pathsDecoder, takes_peek_bind_iff, parses_listed_iff]
  constructor
  · rintro (⟨-, h⟩ | ⟨c, others, hgap, -, h⟩)
    · exact absurd h (not_takes_failNext _)
    split at h
    · next heq =>
      cases heq
      exact ⟨others, hgap, (takes_list_iff isItem_parsesString takes_text_iff '[').1 h⟩
    · next heq => cases heq
    · exact absurd h (not_takes_wrongType _)
  · rintro ⟨inner, hgap, hpaths⟩
    exact .inr ⟨'[', inner, hgap, rfl,
      (takes_list_iff isItem_parsesString takes_text_iff '[').2 hpaths⟩

end

/-! ### Objects and arrays -/

section
variable {text front rest : List Char}

theorem takes_member_iff {found next : Option (List String)} {key : String} :
    Takes (member found key) text next rest ↔
      key = "paths" ∧ found = none ∧
        ∃ middle paths, Gap text (':' :: middle) ∧ Parses (listed paths) middle rest ∧
        next = some paths := by
  constructor
  · intro h
    obtain ⟨hkey, h⟩ := (takes_unless_iff (not_takes_mismatch _)).1 h
    cases found with
    | some paths =>
      obtain ⟨_, _, h, -⟩ := takes_bind_iff.1 h
      exact absurd h (not_takes_mismatch _)
    | none =>
      obtain ⟨_, middle, hcolon, h⟩ := takes_bind_iff.1 h
      obtain ⟨paths, _, hpaths, h⟩ := takes_bind_iff.1 h
      cases h
      exact ⟨eq_of_beq hkey, rfl, middle, paths, takes_colon_iff.1 hcolon,
        takes_pathsDecoder_iff.1 hpaths, rfl⟩
  · rintro ⟨rfl, rfl, middle, paths, hcolon, hpaths, rfl⟩
    exact (takes_colon_iff.2 hcolon).bind
      ((takes_pathsDecoder_iff.2 hpaths).bind (Takes.pure _ rest))

/-- The members of the object with these directories, or without any. -/
def memberTerms (found : Option (List String)) : List (String × Term) :=
  found.toList.map fun paths => ("paths", listed paths)

/-- At most one member is taken: behind it every key is unknown or repeated. -/
theorem takes_allMembers_iff {found : Option (List String)} :
    Takes (allMembers member none) text found front ↔
      ∃ rest, front = '}' :: rest ∧
        Listing (ParsesMember Parses) '}' true (memberTerms found) text rest := by
  constructor
  · intro h
    obtain ⟨_, _, hget, h⟩ := takes_bind_iff.1 h
    cases hget
    obtain ⟨rfl, rest, hend, rfl⟩ | ⟨start, key, middle, next, after, hlead, hkey, hmember, h⟩ :=
      takes_members_iff.1 h
    · exact ⟨rest, rfl, .nil hend⟩
    obtain ⟨rfl, -, inner, paths, hcolon, hpaths, rfl⟩ := takes_member_iff.1 hmember
    cases hlength : text.length with
    | zero =>
      rw [hlength] at h
      exact absurd h (not_takes_failHere _)
    | succ limit =>
      rw [hlength] at h
      obtain ⟨rfl, rest, hend, rfl⟩ | ⟨_, _, _, _, _, _, _, hmember, _⟩ := takes_members_iff.1 h
      · exact ⟨rest, rfl, .cons hlead (.mk hkey hcolon hpaths) (.nil hend)⟩
      · obtain ⟨_, hfound, _⟩ := takes_member_iff.1 hmember
        cases hfound
  · rintro ⟨rest, rfl, h⟩
    refine (takes_get text).bind ?_
    cases found with
    | none =>
      cases h with
      | nil hend => exact takes_members_iff.2 (.inl ⟨rfl, rest, hend, rfl⟩)
    | some paths =>
      cases h with
      | @cons _ _ _ _ start after _ hlead hx hxs =>
      cases hxs with
      | nil hend =>
      cases hx with
      | mk hkey hcolon hpaths =>
      have := Lead.length_le hlead
      have := hkey.length_lt
      obtain ⟨limit, hlimit⟩ : ∃ limit, text.length = limit + 1 := ⟨text.length - 1, by omega⟩
      rw [hlimit]
      have hmember := takes_member_iff.2 ⟨rfl, rfl, _, paths, hcolon, hpaths, rfl⟩
      exact takes_members_iff.2 (.inr ⟨start, "paths", _, some paths, after, hlead, hkey, hmember,
        takes_members_iff.2 (.inl ⟨rfl, rest, hend, rfl⟩)⟩)

theorem describes_object_iff {members : List (String × Term)} {config : Config} :
    Describes (.object members) config.paths ↔
      ∃ found, members = memberTerms found ∧ config = ofPaths? found := by
  constructor
  · intro h
    obtain ⟨paths⟩ := config
    cases h with
    | noMember => exact ⟨none, rfl, rfl⟩
    | member => exact ⟨some paths, rfl, rfl⟩
  · rintro ⟨found, rfl, rfl⟩
    cases found with
    | none => exact .noMember
    | some paths => exact .member

theorem takes_object_iff {found : Option (List String)} :
    Takes (inObject (allMembers member none)) ('{' :: text) found rest ↔
      Listing (ParsesMember Parses) '}' true (memberTerms found) text rest := by
  rw [inObject, takes_bracketed_iff]
  constructor
  · rintro ⟨middle, hmembers, hend⟩
    obtain ⟨after, rfl, h⟩ := takes_allMembers_iff.1 hmembers
    obtain ⟨-, rfl⟩ := (Gap.refl _).unique rfl (takes_objectEnd_iff.1 hend) rfl
    exact h
  · intro h
    exact ⟨_, takes_allMembers_iff.2 ⟨rest, rfl, h⟩, takes_objectEnd_iff.2 (.refl _)⟩

/-- What is taken between the brackets of a configuration that is written as an array. -/
def elementDecoder : Decoder Config := do
  if ← nextElement true then return { paths := ← pathsDecoder }
  return {}

theorem takes_elementDecoder_iff {config : Config} :
    Takes (inList elementDecoder) ('[' :: text) config rest ↔
      ∃ elements, Listing Parses ']' true elements text rest ∧
        Describes (.array elements) config.paths := by
  rw [inList, takes_bracketed_iff]
  constructor
  · rintro ⟨middle, h, hend⟩
    rw [takes_listEnd_iff] at hend
    obtain ⟨more, start, hnext, h⟩ := takes_bind_iff.1 h
    obtain ⟨rfl, after, hgap, rfl⟩ | ⟨rfl, _, c, others, rfl, hgap, -, -, rfl⟩ :=
      takes_nextElement_iff.1 hnext
    · cases h
      obtain ⟨-, rfl⟩ := (Gap.refl _).unique rfl hend rfl
      exact ⟨[], .nil hgap, .noElement⟩
    · obtain ⟨paths, after, hpaths, h⟩ := takes_bind_iff.1 h
      cases h
      have hlisted := parses_listed_of_gap hgap (takes_pathsDecoder_iff.1 hpaths)
      exact ⟨[listed paths], .cons rfl hlisted (.nil hend), .element⟩
  · rintro ⟨elements, h, hdescribes⟩
    obtain ⟨paths⟩ := config
    cases hdescribes with
    | noElement =>
      cases h with
      | nil hend =>
        have hnext : Takes (nextElement true) text false (']' :: rest) :=
          takes_nextElement_iff.2 (.inl ⟨rfl, rest, hend, rfl⟩)
        exact ⟨_, hnext.bind (Takes.pure _ _), takes_listEnd_iff.2 (.refl _)⟩
    | element =>
      cases h with
      | cons hlead hlisted hxs =>
      cases hlead
      cases hxs with
      | nil hend =>
      obtain ⟨inner, hgap, hpaths⟩ := parses_array_iff.1 hlisted
      have hnext : Takes (nextElement true) text true ('[' :: inner) :=
        takes_nextElement_iff.2 (.inr ⟨rfl, text, '[', inner, rfl, hgap, rfl, by decide, rfl⟩)
      have hinner := takes_pathsDecoder_iff.2 (parses_array_iff.2 ⟨inner, .refl _, hpaths⟩)
      exact ⟨_, hnext.bind (hinner.bind (Takes.pure _ _)), takes_listEnd_iff.2 hend⟩

/-- A configuration is taken exactly where a term that describes it stands. -/
theorem takes_decoder_iff {config : Config} :
    Takes decoder text config rest ↔
      ∃ term, Parses term text rest ∧ Describes term config.paths := by
  rw [decoder, takes_peek_bind_iff]
  constructor
  · rintro (⟨-, h⟩ | ⟨c, inner, hgap, -, h⟩)
    · exact absurd h (not_takes_failNext _)
    split at h
    · next heq =>
      cases heq
      obtain ⟨found, hmembers, rfl⟩ := takes_map_iff.1 h
      have hobject := parses_object_iff.2 ⟨inner, hgap, takes_object_iff.1 hmembers⟩
      exact ⟨_, hobject, describes_object_iff.2 ⟨found, rfl, rfl⟩⟩
    · next heq =>
      cases heq
      obtain ⟨elements, helements, hdescribes⟩ := takes_elementDecoder_iff.1 h
      exact ⟨_, parses_array_iff.2 ⟨inner, hgap, helements⟩, hdescribes⟩
    · next heq => cases heq
    · exact absurd h (not_takes_wrongType _)
  · rintro ⟨term, h, hdescribes⟩
    cases term with
    | object members =>
      obtain ⟨inner, hgap, hmembers⟩ := parses_object_iff.1 h
      obtain ⟨found, rfl, rfl⟩ := describes_object_iff.1 hdescribes
      exact .inr ⟨'{', inner, hgap, rfl, (takes_object_iff.2 hmembers).map ofPaths?⟩
    | array elements =>
      obtain ⟨inner, hgap, helements⟩ := parses_array_iff.1 h
      exact .inr ⟨'[', inner, hgap, rfl,
        takes_elementDecoder_iff.2 ⟨elements, helements, hdescribes⟩⟩
    | _ => cases hdescribes

end

/-! ### Whole texts -/

theorem ofJson_eq_ok_iff {text : String} {config : Config} :
    ofJson text = .ok config ↔ ∃ term, Document term text.toList ∧ Describes term config.paths := by
  rw [ofJson, run_eq_ok_iff]
  constructor
  · rintro ⟨after, h, hafter⟩
    obtain ⟨term, hterm, hdescribes⟩ := takes_decoder_iff.1 h
    exact ⟨term, ⟨after, hterm, hafter⟩, hdescribes⟩
  · rintro ⟨term, ⟨after, hterm, hafter⟩, hdescribes⟩
    exact ⟨after, takes_decoder_iff.2 ⟨term, hterm, hdescribes⟩, hafter⟩

/-- Since a document holds one term only, that term has to describe the configuration. -/
theorem ofJson_eq_ok_iff_of_document {text : String} {term : Term}
    (hterm : Document term text.toList) {config : Config} :
    ofJson text = .ok config ↔ Describes term config.paths := by
  rw [ofJson_eq_ok_iff]
  constructor
  · rintro ⟨other, hother, hdescribes⟩
    exact hterm.unique hother ▸ hdescribes
  · intro hdescribes
    exact ⟨term, hterm, hdescribes⟩

/-- Behind the term of a configuration there may only be blanks. It opens with a bracket, so it is
no numeral that the text could go on with. -/
theorem isBlank_of_ofJson_eq_ok {text : String} {config : Config} {term : Term} {rest : List Char}
    (h : ofJson text = .ok config) (hterm : Parses term text.toList rest) : IsBlank rest := by
  obtain ⟨other, ⟨after, hother, hafter⟩, hdescribes⟩ := ofJson_eq_ok_iff.1 h
  obtain ⟨c, front, hgap, hc⟩ := hother.opens
  have hbracket : c = '{' ∨ c = '[' := by
    obtain ⟨paths⟩ := config
    cases hdescribes with
    | noMember | member => exact .inl hc
    | noElement | element => exact .inr hc
  have hopens := hterm.opensWith hgap hc.isBlank_eq_false
  have hends : term.EndsBefore rest := by
    cases term with
    | number => rcases hbracket with rfl | rfl <;> simp [Term.OpensWith] at hopens
    | _ => trivial
  obtain ⟨-, rfl⟩ := hother.unique hterm (other.endsBefore_of_stops (stops_of_isBlank hafter)) hends
  exact hafter

theorem exists_ofJson_eq_error_iff {text : String} :
    (∃ rejection, ofJson text = .error rejection) ↔
      ¬∃ term paths, Document term text.toList ∧ Describes term paths := by
  constructor
  · rintro ⟨rejection, hrejected⟩ ⟨term, paths, hdocument, hdescribes⟩
    have hconfig : ofJson text = .ok { paths } := ofJson_eq_ok_iff.2 ⟨term, hdocument, hdescribes⟩
    cases hconfig.symm.trans hrejected
  · intro h
    cases hjson : ofJson text with
    | error rejection => exact ⟨rejection, rfl⟩
    | ok config =>
      obtain ⟨term, hdocument, hdescribes⟩ := ofJson_eq_ok_iff.1 hjson
      exact absurd ⟨term, config.paths, hdocument, hdescribes⟩ h

/-! ### Spelled configurations -/

theorem parses_listed_of_spelled {paths : List String} {text : List Char}
    (h : Spelled (.array (paths.map .string)) text) (rest : List Char) :
    Parses (listed paths) (text ++ rest) rest := by
  cases h with
  | @array _ gap last write hgap hlast helements =>
    have hpaths : ∀ path ∈ paths, ∀ rest,
        ParsesString (id path) (gap ++ ((write ∘ Value.string) path ++ rest)) rest := by
      intro path hpath rest
      rw [Function.comp_apply, eq_quote_of_spelled (helements _ (List.mem_map_of_mem hpath))]
      exact parsesString_quote hgap path rest
    have hlisting := listing_joined hlast hpaths true rest
    rw [List.map_id] at hlisting
    simp only [enclosed, List.cons_append, List.append_assoc, List.nil_append, List.map_map]
    exact parses_listed_iff.2 ⟨_, .refl _, hlisting⟩

/-- A configuration is read from every spelling of its JSON. -/
theorem ofJson_of_spelled {config : Config} {text : String}
    (h : Spelled config.toJson text.toList) :
    ofJson text = .ok config := by
  obtain ⟨paths⟩ := config
  rw [ofJson_eq_ok_iff]
  generalize text.toList = chars at h
  cases h with
  | @object _ gap space last write hgap hspace hlast hmembers =>
    have hlisted := parses_listed_of_spelled (hmembers ("paths", _) (List.mem_singleton.2 rfl))
    have hpaths := fun rest => parses_listed_of_gap ⟨space, hspace, rfl⟩ (hlisted rest)
    have hmember := fun rest => ParsesMember.mk (parsesString_quote hgap "paths" _) (.refl _)
      (hpaths rest)
    simp only [enclosed, joined, lead, memberText, List.map_cons, List.map_nil, List.append_assoc,
      List.cons_append, List.nil_append, if_true]
    exact ⟨_, ⟨[], .object (.refl _) (.cons rfl (hmember _) (.nil ⟨last, hlast, rfl⟩)),
      isBlank_nil⟩, .member⟩

theorem ofJson_defaultText : ofJson defaultText = .ok {} := ofJson_of_spelled (spelled_pretty _ 0)

/-! ### Configuration files -/

theorem load_eq_malformed_iff {files : FileSystem} {start found : Path} {text : String}
    (hfound : find? files start = some found) (htext : files.readText found.text = .ok text)
    {rejection : Rejection} :
    load files start = .error (.malformed found rejection) ↔ ofJson text = .error rejection := by
  rw [load_eq_error_iff]
  constructor
  · rintro ⟨_, -, hunusable⟩
    cases hunusable with
    | malformed htext' hrejected =>
      cases htext.symm.trans htext'
      exact hrejected
  · intro hrejected
    exact ⟨found, hfound, .malformed htext hrejected⟩

theorem ofJson_of_load_eq_ok {files : FileSystem} {start found : Path} {text : String}
    {loaded : Loaded}
    (hfound : find? files start = some found) (htext : files.readText found.text = .ok text)
    (h : load files start = .ok loaded) : ofJson text = .ok loaded.config := by
  obtain ⟨hnone, -⟩ | ⟨_, _, hfound', htext', hconfig, -⟩ := load_eq_ok_iff.1 h
  · cases hfound.symm.trans hnone
  · cases hfound.symm.trans hfound'
    cases htext.symm.trans htext'
    exact hconfig

/-- The parser of configurations accepts exactly its grammar, for every text. It gives the
directories that the term of the text describes: those of the one member or element, or the default
one if there is none. A document of any other term is rejected, and so is a term with more than
blanks behind it. A configuration file with a text that is rejected makes loading fail, and
otherwise the directories that are loaded are those that the text describes. -/
theorem ofJson_grammar (text : String) :
    (∀ config, ofJson text = .ok config ↔
      ∃ term, Document term text.toList ∧ Describes term config.paths) ∧
    (∀ term, Document term text.toList →
      ∀ config, ofJson text = .ok config ↔ Describes term config.paths) ∧
    (∀ term, Document term text.toList → Foreign term → ∃ rejection,
      ofJson text = .error rejection) ∧
    (∀ term rest, Parses term text.toList rest → ¬IsBlank rest → ∃ rejection,
      ofJson text = .error rejection) ∧
    ∀ files start found, find? files start = some found → files.readText found.text = .ok text →
      ((∃ rejection, load files start = .error (.malformed found rejection)) ↔
        ¬∃ term paths, Document term text.toList ∧ Describes term paths) ∧
      ∀ loaded, load files start = .ok loaded →
        ∃ term, Document term text.toList ∧ Describes term loaded.config.paths := by
  refine ⟨fun _ => ofJson_eq_ok_iff, fun term hterm _ => ofJson_eq_ok_iff_of_document hterm,
    ?_, ?_, ?_⟩
  · intro term hterm hforeign
    rw [exists_ofJson_eq_error_iff]
    rintro ⟨other, paths, hother, hdescribes⟩
    cases hterm.unique hother
    exact hdescribes.not_foreign hforeign
  · intro term rest hterm hrest
    rw [exists_ofJson_eq_error_iff]
    rintro ⟨other, paths, hother, hdescribes⟩
    exact hrest (isBlank_of_ofJson_eq_ok (ofJson_eq_ok_iff.2 ⟨other, hother, hdescribes⟩) hterm)
  · intro files start found hfound htext
    refine ⟨?_, fun loaded h => ofJson_eq_ok_iff.1 (ofJson_of_load_eq_ok hfound htext h)⟩
    simp only [load_eq_malformed_iff hfound htext, exists_ofJson_eq_error_iff]

/-- The known key with an escape in it. -/
def escapedText : String := "\x7b\"\\u0070aths\":[\"a\"]\x7d"

/-- A key that is almost the known one. -/
def misspeltText : String := "\x7b\"path\":[]\x7d"

def misspelt : FileSystem where
  entries := [(configName, .file misspeltText.toUTF8)]
  distinct := by simp [Entries.Distinct, Entry.Distinct]

/-- The escaped key is known, the misspelt one is not replaced by the default, and nothing may stand
behind the term. -/
theorem ofJson_grammar_misspelt :
    ofJson escapedText = .ok { paths := ["a"] } ∧
      (∃ rejection, load misspelt ⟨"/"⟩ = .error (.malformed ⟨"/.routablerc.json"⟩ rejection)) ∧
      (∃ rejection, ofJson misspeltText = .error rejection) ∧
      ∃ rejection, ofJson "[]," = .error rejection := by
  have hescaped : Document (.object [("paths", listed ["a"])]) escapedText.toList := by
    have hzero : IsHexDigit 0 '0' := ⟨by decide, .inl rfl⟩
    have hseven : IsHexDigit 7 '7' := ⟨by decide, .inl rfl⟩
    have hunit : ∀ rest, ParsesUnit 'p'.toNat ('0' :: '0' :: '7' :: '0' :: rest) rest :=
      fun _ => .mk hzero hzero hseven hzero
    have hkey : ∀ rest, ParsesString "paths"
        ('"' :: '\\' :: 'u' :: '0' :: '0' :: '7' :: '0' :: 'a' :: 't' :: 'h' :: 's' ::
        '"' :: rest) rest :=
      fun rest =>
        ⟨_, .refl _, .cons (.unit (hunit _)) (parsesChars_encode ['a', 't', 'h', 's'] rest)⟩
    have hlisted : ∀ rest, Parses (listed ["a"]) ('[' :: '"' :: 'a' :: '"' :: ']' :: rest) rest :=
      fun _ => .array (.refl _)
        (.cons rfl (.string ⟨_, .refl _, parsesChars_encode ['a'] _⟩) (.nil (.refl _)))
    exact ⟨[], .object (.refl _) (.cons rfl (.mk (hkey _) (.refl _) (hlisted _)) (.nil (.refl _))),
      isBlank_nil⟩
  have hempty : ∀ rest, Parses (.array []) ('[' :: ']' :: rest) rest :=
    fun _ => .array (.refl _) (.nil (.refl _))
  have hmisspelt : Document (.object [("path", .array [])]) misspeltText.toList := by
    have hkey : ∀ rest, ParsesString "path" ('"' :: 'p' :: 'a' :: 't' :: 'h' :: '"' :: rest) rest :=
      fun rest => ⟨_, .refl _, parsesChars_encode ['p', 'a', 't', 'h'] rest⟩
    exact ⟨[], .object (.refl _) (.cons rfl (.mk (hkey _) (.refl _) (hempty _)) (.nil (.refl _))),
      isBlank_nil⟩
  have hforeign : Foreign (.object [("path", .array [])]) := .unknown List.mem_cons_self (by decide)
  have hfind : find? misspelt ⟨"/"⟩ = some ⟨"/.routablerc.json"⟩ := by rfl
  have hentry : misspelt.entry "/.routablerc.json" = .ok (.file misspeltText.toUTF8) := by rfl
  obtain ⟨-, haccepts, -⟩ := ofJson_grammar escapedText
  obtain ⟨-, -, hrejects, -, hload⟩ := ofJson_grammar misspeltText
  obtain ⟨-, -, -, htrailing, -⟩ := ofJson_grammar "[],"
  refine ⟨(haccepts _ hescaped _).2 .member, ?_, hrejects _ hmisspelt hforeign,
    htrailing _ [','] (hempty _) ?_⟩
  · refine (hload misspelt _ _ hfind (FileSystem.readText_of_entry hentry)).1.2 ?_
    rintro ⟨term, paths, hterm, hdescribes⟩
    cases hterm.unique hmisspelt
    exact hdescribes.not_foreign hforeign
  · intro hblank
    cases hblank ',' List.mem_cons_self

end RouteManifest.Config
