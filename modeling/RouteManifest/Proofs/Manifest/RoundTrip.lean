import RouteManifest.Manifest
import RouteManifest.Proofs.Manifest.Reader
import RouteManifest.Proofs.Pattern.Flags

/-!
Reading a manifest undoes writing it. Texts and paths may be any texts at all. Of a regular
expression it is assumed that its flags are accepted and that its source can stand between slashes;
the reader then finds the source as `regexSource` writes it. Nothing is said of a source that no
literal can carry.
-/

namespace RouteManifest.Manifest

open Script
open Text.Identifier (isPart)

/-- A pattern that a literal of the script language can stand for. -/
def Writable : Pattern → Prop
  | .literal _ => True
  | .regex source flags => Carried source ∧ RegexFlags.accepts flags = true

instance : DecidablePred Writable
  | .literal _ => inferInstanceAs (Decidable True)
  | .regex _ _ => inferInstanceAs (Decidable (_ ∧ _))

/-- A registry all of whose patterns are such. -/
def Legible (registry : Registry) : Prop := ∀ record ∈ registry, ∀ p ∈ record.patterns, Writable p

instance (registry : Registry) : Decidable (Legible registry) :=
  inferInstanceAs (Decidable (∀ record ∈ registry, ∀ p ∈ record.patterns, Writable p))

/-- What a manifest says of a pattern: all of it, except that the source of a regular expression is
as written. -/
def written : Pattern → Pattern
  | .literal text => .literal text
  | .regex source flags => .regex (regexSource source) flags

/-- What a manifest says of a record. -/
def Entry.ofRecord (record : Record) : Entry := ⟨record.patterns.map written, record.path⟩

namespace Reader

/-! ### Patterns -/

theorem isPart_of_accepts {flags : String} (h : RegexFlags.accepts flags = true) :
    ∀ c ∈ flags.toList, isPart c = true := by
  have hall : RegexFlags.known.all isPart = true := by decide
  intro c hc
  exact List.all_eq_true.1 hall c ((RegexFlags.accepts_eq_true_iff.1 h).known c hc)

/-- Accepted flags end where an identifier would end. -/
theorem takeWhile_flags {flags : List Char} {rest : Place} (hflags : ∀ c ∈ flags, isPart c = true)
    (hrest : EndsWord rest) :
    (flags ++ rest).takeWhile isPart = flags ∧ (flags ++ rest).dropWhile isPart = rest := by
  rw [List.takeWhile_append_of_pos hflags, List.dropWhile_append_of_pos hflags]
  cases rest with
  | nil => exact ⟨List.append_nil flags, rfl⟩
  | cons c rest =>
    have hc : ¬isPart c = true := by simp [(hrest c rfl).1]
    rw [List.takeWhile_cons_of_neg hc, List.dropWhile_cons_of_neg hc]
    exact ⟨List.append_nil flags, rfl⟩

theorem regex_eq_none {blank text : Place} (hblank : IsBlank blank) (htext : EndsGap text)
    (hhead : text.head? ≠ some '/') : regex.run (blank ++ text) = none := by
  obtain ⟨lineEnd, hgap⟩ := gap_blank hblank false text
  simp only [StateT.run, regex, hgap, htext lineEnd]
  split
  · next heq =>
    cases heq
    exact absurd rfl hhead
  · rfl

/-- A regular expression is read to its source as written and to its flags. -/
theorem reads_regex {blank : List Char} {source flags : String} (hblank : IsBlank blank)
    (hsource : Carried source)
    (hflags : RegexFlags.accepts flags = true) {rest : Place} (hrest : EndsWord rest) :
    regex.Reads (blank ++ '/' :: ((regexSource source).toList ++ '/' :: (flags.toList ++ rest)))
      (.regex (regexSource source) flags) rest := by
  have hbody := regexBody?_regexSource hsource (flags.toList ++ rest)
  have hends : ∀ c ∈ (regexSource source).toList, isLineEnd c = false :=
    fun _ hc => isLineEnd_regexSource hc
  obtain ⟨htake, hdrop⟩ := takeWhile_flags (isPart_of_accepts hflags) hrest
  obtain ⟨c, body, hhead, hslash, hstar⟩ := head_regexSource hsource
  have hafter : regexAfterSlash ((regexSource source).toList ++ '/' :: (flags.toList ++ rest)) =
      some (.regex (regexSource source) flags, rest) := by
    have hnone :
        ((regexSource source).toList.isEmpty || (regexSource source).toList.head? == some '*' ||
        (regexSource source).toList.any isLineEnd) = false := by
      have hany : (regexSource source).toList.any isLineEnd = false := by simpa using hends
      rw [hany, hhead]
      simp [hstar]
    simp only [regexAfterSlash, hbody, htake, hdrop, hnone, Option.bind_eq_bind, Option.bind_some,
      Bool.false_eq_true, if_false, String.ofList_toList, Option.pure_def]
  obtain ⟨lineEnd, hgap⟩ := gap_blank hblank false
    ('/' :: ((regexSource source).toList ++ '/' :: (flags.toList ++ rest)))
  have hstart :
      EndsGap ('/' :: ((regexSource source).toList ++ '/' :: (flags.toList ++ rest))) := by
    rw [hhead]
    exact endsGap_slash hslash hstar
  simp only [Reads, StateT.run, regex, hgap, hstart lineEnd, hafter]

/-- A pattern is read to what was written for it. -/
theorem reads_pattern {p : Pattern} (hp : Writable p) :
    ReadsItem pattern (Manifest.pattern p).toList (written p) := by
  intro blank rest hblank hrest
  cases p with
  | literal value =>
    have hhead : ((Text.quote value).toList ++ rest).head? ≠ some '/' := by
      rw [Text.quote, String.toList_ofList]
      exact fun h => by cases h
    have hgap : EndsGap ((Text.quote value).toList ++ rest) := by
      rw [Text.quote, String.toList_ofList]
      exact endsGap_encode value.toList rest
    exact Reads.orElse_of_none (regex_eq_none hblank hgap hhead)
      ((reads_text value hblank rest).map Pattern.literal)
  | regex source flags =>
    have h := reads_regex hblank hp.1 hp.2 hrest
    rw [Manifest.pattern, String.toList_append, String.toList_append, String.toList_append,
      List.append_assoc, List.append_assoc, List.append_assoc]
    exact h.orElse

theorem pattern_closing {blank : List Char} (hblank : IsBlank blank) (rest : Place) :
    pattern.run (blank ++ ']' :: rest) = none := by
  have htext : text.run (blank ++ ']' :: rest) = none := by
    rw [text, StateT.run_bind, reads_closing hblank rest]
    rfl
  change (regex.run (blank ++ ']' :: rest) <|> (Pattern.literal <$> text).run
    (blank ++ ']' :: rest)) = none
  rw [regex_eq_none hblank (endsGap_mark rfl rfl) (by simp), StateT.run_map, htext]
  rfl

/-! ### Entries and manifests -/

theorem toList_entry (record : Record) :
    (Manifest.entry record).toList =
      '{' :: ' ' :: ("match".toList ++ ':' :: ' ' :: '[' ::
        ((',' :: [' ']).intercalate (record.patterns.map fun p => (Manifest.pattern p).toList) ++
          (']' :: ',' :: ' ' ::
            ("loader".toList ++ ':' :: ' ' :: '(' :: ')' :: ' ' :: '=' :: '>' :: ' ' ::
            ("import".toList ++ '(' ::
              ((Text.quote record.path).toList ++ [')', ' ', '}'])))))) := by
  rw [Manifest.entry, String.toList_append, String.toList_append, String.toList_append,
    String.toList_append, String.toList_intercalate, List.map_map]
  simp only [List.append_assoc]
  rfl

/-- An entry is read to what it says of its record, token by token. -/
theorem reads_entry {record : Record} (hrecord : ∀ p ∈ record.patterns, Writable p) :
    ReadsItem entry (Manifest.entry record).toList (Entry.ofRecord record) := by
  intro blank rest hblank _
  have hnone : IsBlank [] := by decide
  have hspace : IsBlank [' '] := by decide
  have hitem : ∀ p ∈ record.patterns, ReadsItem pattern (Manifest.pattern p).toList (written p) :=
    fun p hp => reads_pattern (hrecord p hp)
  have hpatterns := fun after => reads_array hspace hnone hspace hnone hitem
    (fun _ after hblank => pattern_closing hblank after) after
  rw [toList_entry]
  simp only [List.cons_append, List.append_assoc, List.nil_append]
  refine (reads_mark hblank rfl rfl rfl).bind ?_
  refine (reads_word "match" hspace rfl (endsWord_cons (by decide))).bind ?_
  refine (reads_mark hnone rfl rfl rfl).bind ?_
  refine (hpatterns _).bind ?_
  refine (reads_mark hnone rfl rfl rfl).bind ?_
  refine (reads_word "loader" hspace rfl (endsWord_cons (by decide))).bind ?_
  refine (reads_mark hnone rfl rfl rfl).bind ?_
  refine (reads_mark hspace rfl rfl rfl).bind ?_
  refine (reads_mark hnone rfl rfl rfl).bind ?_
  refine (reads_mark hspace rfl rfl rfl).bind ?_
  refine (reads_word "import" hspace rfl (endsWord_cons (by decide))).bind ?_
  refine (reads_mark hnone rfl rfl rfl).bind ?_
  refine (reads_text record.path hnone _).bind ?_
  refine (reads_mark hnone rfl rfl rfl).bind ?_
  refine (reads_mark hspace rfl rfl rfl).bind ?_
  exact Reads.pure _ _

theorem entry_closing {blank : List Char} (hblank : IsBlank blank) (rest : Place) :
    entry.run (blank ++ ']' :: rest) = none := by
  rw [entry, mark, expect, StateT.run_bind, StateT.run_bind, reads_closing hblank rest]
  rfl

theorem toList_render (registry : Registry) :
    (render registry).toList =
      "export".toList ++ ' ' ::
        ("const".toList ++ ' ' :: (exportName.toList ++ ' ' :: '=' :: ' ' :: '[' :: '\n' ::
        ((',' :: ['\n']).intercalate (registry.map fun record => (Manifest.entry record).toList) ++
          ['\n', ']', ';']))) := by
  rw [render, String.toList_append, String.toList_append, String.toList_append,
    String.toList_append, String.toList_intercalate, List.map_map]
  simp only [List.append_assoc]
  rfl

/-- A manifest is read to the end of its text, to one entry for each record. -/
theorem reads_manifest {registry : Registry} (hregistry : Legible registry) :
    manifest.Reads (render registry).toList (registry.map Entry.ofRecord) [] := by
  have hnone : IsBlank [] := by decide
  have hspace : IsBlank [' '] := by decide
  have hline : IsBlank ['\n'] := by decide
  have hitem : ∀ record ∈ registry,
      ReadsItem entry (Manifest.entry record).toList (Entry.ofRecord record) :=
    fun record hrecord => reads_entry (hregistry record hrecord)
  have hentries := fun after => reads_array hspace hline hline hline hitem
    (fun _ after hblank => entry_closing hblank after) after
  rw [toList_render]
  refine (reads_word "export" hnone rfl (endsWord_cons (by decide))).bind ?_
  refine (reads_word "const" hspace rfl (endsWord_cons (by decide))).bind ?_
  refine (reads_word exportName hspace rfl (endsWord_cons (by decide))).bind ?_
  refine (reads_mark hspace rfl rfl rfl).bind ?_
  refine (hentries _).bind ?_
  refine (reads_mark hnone rfl rfl rfl).bind ?_
  refine (reads_of_begins (begins_of_tokenAt hnone endsGap_nil rfl)).expect.bind ?_
  exact Reads.pure _ _

end Reader

/-- Reading a manifest undoes writing it: there is one entry for each record, in order, with the
record's path and with its patterns as written. So two registries have the same manifest only if
they agree on all of that. -/
theorem read?_render {registry : Registry} (hregistry : Legible registry) :
    read? (render registry) = some (registry.map Entry.ofRecord) ∧
      ∀ other : Registry, Legible other → render other = render registry →
        other.map Entry.ofRecord = registry.map Entry.ofRecord := by
  have hread : ∀ given : Registry, Legible given →
      read? (render given) = some (given.map Entry.ofRecord) := by
    intro given h
    rw [read?, StateT.run'_eq, Reader.reads_manifest h]
    rfl
  refine ⟨hread registry hregistry, ?_⟩
  intro other hother hsame
  have hentries := hread other hother
  rw [hsame, hread registry hregistry] at hentries
  exact (Option.some.inj hentries).symm

/-- Delimiters inside texts, bodies and paths forge no entry, and a slash in a body reads like one
that was escaped. -/
theorem read?_render_delimiters :
    Legible [⟨[.literal "\"], \u2028\\", .regex "a/b[/]" "gu", .regex "" ""], "/x\" \x7d", none⟩,
        ⟨[], "", some .path⟩] ∧
      read? (render
        [⟨[.literal "\"], \u2028\\", .regex "a/b[/]" "gu", .regex "" ""], "/x\" \x7d", none⟩,
        ⟨[], "", some .path⟩]) =
        some [⟨[.literal "\"], \u2028\\", .regex "a\\/b[/]" "gu", .regex "(?:)" ""], "/x\" \x7d"⟩,
          ⟨[], ""⟩] :=
  ⟨by decide, (read?_render (by decide)).1⟩

end RouteManifest.Manifest
