import Mathlib.Data.List.DropRight
import Mathlib.Tactic.TFAE
import ResourceWatch.Proofs.Outcomes
import ResourceWatch.Proofs.RegistryTables
import ResourceWatch.Proofs.TrimAndCut

/-! # Usable origins

An origin is usable if it names a page's scheme and a host. Then every path and query has an
address, which differs from that of another path and query only behind the host, and otherwise
none has. So a configuration is valid as soon as one stream opens, and a valid one opens them all.
-/

namespace ResourceWatch

open Text

namespace Origin

/-- Whether a text names an origin. Behind a page's scheme, in letters of either case, comes the
host, which ends in no slash. Slashes behind the host and blanks around the text do not count. -/
structure IsNamedBy (origin : Origin) (text : String) : Prop where
  written : ∃ scheme slashes,
    trim text.toList =
      scheme ++ ([':', '/', '/'] ++ (origin.host ++ List.replicate slashes '/')) ∧
    streamScheme? (String.ofList (scheme.map Char.toLower)) = some origin.scheme
  host_ne_nil : origin.host ≠ []
  last_host : origin.host.getLast? ≠ some '/'

/-! ## Schemes and hosts -/

theorem streamScheme?_cases {scheme stream : String}
    (hstream : streamScheme? scheme = some stream) :
    (stream = "ws" ∧ (scheme = "http" ∨ scheme = "ws")) ∨
      (stream = "wss" ∧ (scheme = "https" ∨ scheme = "wss")) := by
  unfold streamScheme? at hstream
  split at hstream
  next hplain => exact .inl ⟨(Option.some.inj hstream).symm, hplain⟩
  next =>
    split at hstream
    next hsecure => exact .inr ⟨(Option.some.inj hstream).symm, hsecure⟩
    next => cases hstream

theorem colon_not_mem_of_streamScheme? {scheme : List Char} {stream : String}
    (hstream : streamScheme? (String.ofList (scheme.map Char.toLower)) = some stream) :
    ':' ∉ scheme := by
  intro hcolon
  have hlower : ':' ∈ (String.ofList (scheme.map Char.toLower)).toList := by
    rw [String.toList_ofList]
    exact List.mem_map.mpr ⟨':', hcolon, rfl⟩
  rcases streamScheme?_cases hstream with ⟨-, hscheme | hscheme⟩ | ⟨-, hscheme | hscheme⟩ <;>
    rw [hscheme] at hlower <;> revert hlower <;> decide

theorem exists_append_slashes (text : List Char) :
    ∃ slashes, text = text.rdropWhile (· = '/') ++ List.replicate slashes '/' := by
  have hslashes : ∀ c ∈ text.rtakeWhile (· = '/'), c = '/' := fun c hc => by
    simpa using List.mem_rtakeWhile_imp hc
  refine ⟨(text.rtakeWhile (· = '/')).length, ?_⟩
  rw [← List.eq_replicate_of_mem hslashes, List.rdropWhile_append_rtakeWhile]

theorem rdropWhile_append_slashes {host : List Char} (hlast : host.getLast? ≠ some '/')
    (slashes : Nat) :
    (host ++ List.replicate slashes '/').rdropWhile (· = '/') = host := by
  have hslashes : ∀ c ∈ (List.replicate slashes '/').reverse, decide (c = '/') = true := by simp
  rw [List.rdropWhile, List.reverse_append, List.dropWhile_append_of_pos hslashes,
    ← List.rdropWhile, List.rdropWhile_eq_self_iff]
  intro hne hslash
  rw [List.getLast?_eq_some_getLast hne] at hlast
  exact hlast (congrArg some (of_decide_eq_true hslash))

/-! ## Reading an origin -/

theorem parse_of_cutAt {text stream : String} {scheme rest : List Char}
    (hcut : cutAt [':', '/', '/'] (trim text.toList) = some (scheme, rest))
    (hstream : streamScheme? (String.ofList (scheme.map Char.toLower)) = some stream) :
    parse text =
      if (rest.rdropWhile (· = '/')).isEmpty then .error (.noHost text)
      else .ok ⟨stream, rest.rdropWhile (· = '/')⟩ := by
  simp only [parse, hcut, hstream]
  rfl

/-- An origin is read from the texts that name it and from no others. -/
theorem parse_eq_ok_iff {text : String} {origin : Origin} :
    parse text = .ok origin ↔ origin.IsNamedBy text := by
  constructor
  · intro hparse
    cases hcut : cutAt [':', '/', '/'] (trim text.toList) with
    | none => simp [parse, hcut] at hparse
    | some cut =>
        obtain ⟨scheme, rest⟩ := cut
        cases hstream : streamScheme? (String.ofList (scheme.map Char.toLower)) with
        | none => simp [parse, hcut, hstream] at hparse
        | some stream =>
            rw [parse_of_cutAt hcut hstream] at hparse
            split at hparse
            next => cases hparse
            next hhost =>
              cases hparse
              obtain ⟨slashes, hrest⟩ := exists_append_slashes rest
              refine ⟨⟨scheme, slashes, ?_, hstream⟩, by simpa using hhost, ?_⟩
              · rw [← append_of_cutAt hcut, List.append_assoc, ← hrest]
              · intro hlast
                obtain ⟨hne, hslash⟩ := List.mem_getLast?_eq_getLast hlast
                exact List.rdropWhile_last_not _ rest hne (decide_eq_true hslash.symm)
  · rintro ⟨⟨scheme, slashes, htext, hstream⟩, hne, hlast⟩
    have hcut : cutAt [':', '/', '/'] (trim text.toList) =
        some (scheme, origin.host ++ List.replicate slashes '/') := by
      rw [htext]
      exact cutAt_append (colon_not_mem_of_streamScheme? hstream) _ _
    rw [parse_of_cutAt hcut hstream, rdropWhile_append_slashes hlast, if_neg (by simpa using hne)]

/-! ## Addresses -/

/-- A path as it stands in an address, with one slash added if it begins with none. -/
def withSlash (path : String) : String :=
  if path.toList.head? = some '/' then path else "/" ++ path

/-- A query as it stands in an address: behind a question mark, or not at all. -/
def questionPart (query : List (String × String)) : String :=
  if query = [] then "" else "?" ++ String.ofList (Percent.encodePairs query)

theorem address_eq (origin : Origin) (path : String) (query : List (String × String)) :
    origin.address path query =
      origin.scheme ++ "://" ++ String.ofList origin.host ++ withSlash path ++
        questionPart query := by
  have hslash : (afterStart ['/'] path.toList).isSome = true ↔ path.toList.head? = some '/' := by
    rw [Option.isSome_iff_ne_none, ne_eq, afterStart_eq_none_iff, not_not]
    cases path.toList <;> simp [List.cons_prefix_cons, eq_comm]
  apply String.toList_injective
  by_cases hhead : path.toList.head? = some '/' <;> by_cases hquery : query = [] <;>
    simp [address, withSlash, questionPart, hslash, hhead, hquery]

/-- The address of the root names the origin that it was built from. -/
theorem IsNamedBy.address {origin : Origin} {text : String} (hnamed : origin.IsNamedBy text) :
    origin.IsNamedBy (origin.address "/" []) := by
  obtain ⟨⟨scheme, slashes, -, hstream⟩, hne, hlast⟩ := hnamed
  have htext : (origin.address "/" []).toList =
      origin.scheme.toList ++ ([':', '/', '/'] ++ (origin.host ++ List.replicate 1 '/')) := by
    simp [address_eq, withSlash, questionPart]
  have hend : ∀ c ∈ ([':', '/', '/'] ++ (origin.host ++ List.replicate 1 '/')).getLast?,
      isBlank c = false := by
    intro c hc
    rw [← List.append_assoc, List.replicate_one, List.getLast?_append] at hc
    obtain rfl := Option.some.inj hc
    decide
  have hscheme : IsTrimmed origin.scheme.toList ∧ origin.scheme.toList ≠ [] ∧
      streamScheme? (String.ofList (origin.scheme.toList.map Char.toLower)) =
        some origin.scheme := by
    rcases streamScheme?_cases hstream with ⟨hws, -⟩ | ⟨hwss, -⟩
    · rw [hws]
      exact ⟨isTrimmed_trim "ws".toList, by decide, by decide⟩
    · rw [hwss]
      exact ⟨isTrimmed_trim "wss".toList, by decide, by decide⟩
  obtain ⟨htrimmed, hnonempty, hsame⟩ := hscheme
  refine ⟨⟨origin.scheme.toList, 1, ?_, hsame⟩, hne, hlast⟩
  rw [htext, trim_of_isTrimmed (htrimmed.append hnonempty hend)]

end Origin

theorem Config.validate_eq_ok_iff {config : Config} :
    config.validate = .ok () ↔ ∃ origin : Origin, origin.IsNamedBy config.origin := by
  simp only [← Origin.parse_eq_ok_iff]
  unfold validate streamAddress
  cases Origin.parse config.origin <;> simp [Except.map]

/-! ## Streams -/

namespace Registry

variable {registry : Registry}

theorem exists_openFeed_iff {path : String} {query : List (String × String)} {pump : Nat → Pump} :
    (∃ opened, registry.openFeed path query pump = .ok opened) ↔
      registry.config.validate = .ok () := by
  unfold openFeed Config.validate streamAddress
  cases Origin.parse registry.config.origin <;> simp [Except.map]

/-- The first consumer gets a stream exactly if the configuration is valid. -/
theorem exists_subscribe_new_iff {config : Config} {source : Option FieldSource} {kind : Kind}
    {env : String} {filter : QueryFilter} :
    (∃ opened, (new config source).subscribe kind env filter = .ok opened) ↔
      config.validate = .ok () := by
  rw [subscribe_eq_openFeed rfl, Outcome.exists_map_eq_ok_iff, exists_openFeed_iff]
  rfl

theorem exists_subscribeLog_new_iff {config : Config} {source : Option FieldSource}
    {env pod : String} :
    (∃ opened, (new config source).subscribeLog env pod = .ok opened) ↔
      config.validate = .ok () := by
  rw [subscribeLog_eq_openFeed rfl, Outcome.exists_map_eq_ok_iff, exists_openFeed_iff]
  rfl

/-- A configuration is valid exactly if its origin names a scheme and a host, and then every
stream of every registry with it opens, while otherwise none does. Every path and query then has
an address: the streaming scheme, the host, the path with a slash in front, and the query. The
address of the root can take the place of the origin, since it leads to the same addresses. -/
theorem valid_iff_streams_open :
    (∀ (config : Config) (source : Option FieldSource),
      [config.validate = .ok (),
        ∃ origin : Origin, origin.IsNamedBy config.origin,
        ∀ kind env filter, ∃ opened, (new config source).subscribe kind env filter = .ok opened,
        ∃ kind env filter opened, (new config source).subscribe kind env filter = .ok opened,
        ∀ env pod, ∃ opened, (new config source).subscribeLog env pod = .ok opened,
        ∃ env pod opened, (new config source).subscribeLog env pod = .ok opened].TFAE) ∧
    (∀ text path query url, streamAddress text path query = .ok url →
      ∃ origin : Origin, origin.IsNamedBy text ∧ (origin.scheme = "ws" ∨ origin.scheme = "wss") ∧
        ∀ otherPath otherQuery, streamAddress text otherPath otherQuery =
          .ok (origin.scheme ++ "://" ++ String.ofList origin.host ++
            Origin.withSlash otherPath ++ Origin.questionPart otherQuery)) ∧
    ∀ text root, streamAddress text "/" [] = .ok root →
      ∀ path query, streamAddress root path query = streamAddress text path query := by
  refine ⟨?_, ?_, ?_⟩
  · intro config source
    simp only [exists_subscribe_new_iff, exists_subscribeLog_new_iff, ← Config.validate_eq_ok_iff]
    tfae_have 1 ↔ 2 := Iff.rfl
    tfae_have 1 → 3 := fun hvalid _ _ _ => hvalid
    tfae_have 3 → 4 := fun hall => ⟨.pod, "", .none, hall .pod "" .none⟩
    tfae_have 4 → 1 := fun ⟨_, _, _, hvalid⟩ => hvalid
    tfae_have 1 → 5 := fun hvalid _ _ => hvalid
    tfae_have 5 → 6 := fun hall => ⟨"", "", hall "" ""⟩
    tfae_have 6 → 1 := fun ⟨_, _, hvalid⟩ => hvalid
    tfae_finish
  · intro text path query url haddress
    obtain ⟨origin, hparse, -⟩ := streamAddress_eq_ok_iff.mp haddress
    have hnamed := Origin.parse_eq_ok_iff.mp hparse
    obtain ⟨_, _, -, hstream⟩ := hnamed.written
    refine ⟨origin, hnamed, ?_, fun otherPath otherQuery => ?_⟩
    · exact (Origin.streamScheme?_cases hstream).imp And.left And.left
    · rw [streamAddress_eq_ok_iff]
      exact ⟨origin, hparse, origin.address_eq otherPath otherQuery⟩
  · intro text root hroot path query
    obtain ⟨origin, hparse, rfl⟩ := streamAddress_eq_ok_iff.mp hroot
    have hagain := Origin.parse_eq_ok_iff.mpr (Origin.parse_eq_ok_iff.mp hparse).address
    rw [streamAddress, streamAddress, hparse, hagain]

/-- An origin with blanks around it, a scheme in upper case, a second separator in its host and
slashes at its end. -/
def oddOrigin : String := " HTTPS://a://b//\t"

theorem valid_iff_streams_open_oddOrigin :
    streamAddress oddOrigin "x" [("k", "/")] = .ok "wss://a://b/x?k=%2F" ∧
    (∃ origin : Origin, origin.IsNamedBy oddOrigin ∧
      (origin.scheme = "ws" ∨ origin.scheme = "wss") ∧
      streamAddress oddOrigin "//y" [] =
        .ok (origin.scheme ++ "://" ++ String.ofList origin.host ++ Origin.withSlash "//y" ++
          Origin.questionPart [])) ∧
    streamAddress oddOrigin "/" [] = .ok "wss://a://b/" ∧
    streamAddress "wss://a://b/" "x" [("k", "/")] = streamAddress oddOrigin "x" [("k", "/")] ∧
    (∃ opened, (new ⟨oddOrigin, 0, 0⟩ none).subscribeLog "prod" "web" = .ok opened) := by
  obtain ⟨hvalid, hform, hroot⟩ := valid_iff_streams_open
  have haddress : streamAddress oddOrigin "x" [("k", "/")] = .ok "wss://a://b/x?k=%2F" := by rfl
  have hrootAddress : streamAddress oddOrigin "/" [] = .ok "wss://a://b/" := by rfl
  have husable : (⟨oddOrigin, 0, 0⟩ : Config).validate = .ok () := by rfl
  obtain ⟨origin, hnamed, hscheme, hall⟩ := hform _ _ _ _ haddress
  have hlogs := ((hvalid ⟨oddOrigin, 0, 0⟩ none).out 0 4).mp husable
  exact ⟨haddress, ⟨origin, hnamed, hscheme, hall "//y" []⟩, hrootAddress,
    hroot _ _ hrootAddress _ _, hlogs "prod" "web"⟩

end Registry

end ResourceWatch
