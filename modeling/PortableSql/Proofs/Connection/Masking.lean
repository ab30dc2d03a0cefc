import PortableSql.Connection.Config
import PortableSql.Proofs.Text.Chars

namespace PortableSql

open Chars

/-- The schemes of connection strings that have an address, in any case. -/
def IsNetworkScheme (scheme : String) : Prop :=
  ∃ product, (lowerCase scheme ++ "://", product) ∈ Dialect.schemes

namespace ConnectionConfig

/-- A connection string with a user and a password. -/
def address (scheme user password remainder : String) : String :=
  scheme ++ "://" ++ user ++ ":" ++ password ++ "@" ++ remainder

def IsId (id : String) : Prop := id ≠ "" ∧ ∀ c ∈ id.toList, isIdChar c = true

section

variable {scheme user password remainder : String}

/-- A scheme has no at sign, and no letter whose lower case depends on what is around it. -/
theorem not_mem_scheme (h : IsNetworkScheme scheme) :
    '@' ∉ scheme.toList ∧ 'Σ' ∉ scheme.toList := by
  have hall : ∀ entry ∈ Dialect.schemes, ∀ c ∈ ['@', 'σ', 'ς'], c ∉ entry.1.toList := by decide
  obtain ⟨product, hmem⟩ := h
  have hlower : ∀ c ∈ ['@', 'σ', 'ς'], c ∉ lower scheme.toList := by
    intro c hc hlower
    refine hall _ hmem c hc ?_
    rw [String.toList_append, lowerCase, String.toList_ofList]
    exact List.mem_append_left _ hlower
  have hsigma : 'Σ' ∉ scheme.toList := by
    intro hmem
    rcases sigma_mem_lowerAfter hmem [] with h | h
    · exact hlower 'σ' (by decide) h
    · exact hlower 'ς' (by decide) h
  refine ⟨fun hat => hlower '@' (by decide) ?_, hsigma⟩
  rw [lower_of_not_mem hsigma]
  exact List.mem_flatMap.mpr ⟨'@', hat, by decide⟩

theorem ofConnectionString?_address (h : IsNetworkScheme scheme)
    (user password remainder : String) :
    ∃ product, Dialect.ofConnectionString? (address scheme user password remainder) =
      some product := by
  have hsigma := (not_mem_scheme h).2
  obtain ⟨product, hmem⟩ := h
  have hopening : 'Σ' ∉ scheme.toList ++ "://".toList := by
    rw [List.mem_append, not_or]
    exact ⟨hsigma, by decide⟩
  have htext : (address scheme user password remainder).toList = (scheme.toList ++ "://".toList) ++
      (user ++ ":" ++ password ++ "@" ++ remainder).toList := by
    simp [address]
  have hlower : (lowerCase scheme ++ "://").toList =
      (scheme.toList ++ "://".toList).flatMap lowerChar := by
    rw [lowerCase, lower_of_not_mem hsigma, String.toList_append, String.toList_ofList,
      List.flatMap_append]
    rfl
  have hstarts : startsWith (lowerCase scheme ++ "://").toList
      (lower (address scheme user password remainder).toList) = true := by
    rw [startsWith, List.isPrefixOf_iff_prefix, hlower, htext, lower, lowerAfter_append hopening]
    exact List.prefix_append _ _
  have hfound : (Dialect.schemes.find? fun entry => startsWith entry.1.toList
      (lower (address scheme user password remainder).toList)).isSome = true :=
    List.find?_isSome.mpr ⟨_, hmem, hstarts⟩
  obtain ⟨entry, hentry⟩ := Option.isSome_iff_exists.mp hfound
  refine ⟨entry.2, ?_⟩
  unfold Dialect.ofConnectionString?
  exact congrArg (Option.map (·.2)) hentry

/-- What hides the password begins behind the last colon of it, if it has one. -/
theorem cutLast_address (opening password : List Char) :
    ∃ shown hidden, cutLast ':' (opening ++ ':' :: password) = some (opening ++ shown, hidden) ∧
      shown ++ [':'] = ':' :: throughLast ':' password := by
  by_cases hcolon : ':' ∈ password
  · obtain ⟨before, after, rfl, hafter⟩ := exists_last_of_mem hcolon
    refine ⟨':' :: before, after, ?_, ?_⟩
    · have htext : opening ++ ':' :: (before ++ ':' :: after) =
          (opening ++ ':' :: before) ++ ':' :: after := by simp
      rw [htext, cutLast_append _ hafter]
    · rw [throughLast_append before hafter, List.cons_append]
  · refine ⟨[], password, ?_, ?_⟩
    · rw [cutLast_append _ hcolon, List.append_nil]
    · rw [throughLast_eq_nil hcolon, List.nil_append]

/-- What is shown of an address: all but what stands in the password behind its last colon. -/
theorem mask_address (hscheme : '@' ∉ scheme.toList) (huser : '@' ∉ user.toList)
    (hpassword : '@' ∉ password.toList) :
    mask (address scheme user password remainder).toList =
      (scheme ++ "://" ++ user ++ ":").toList ++ throughLast ':' password.toList ++
        "****@".toList ++ remainder.toList := by
  have htext : (address scheme user password remainder).toList =
      ((scheme ++ "://" ++ user).toList ++ ':' :: password.toList) ++ '@' :: remainder.toList := by
    simp [address]
  have hat : '@' ∉ (scheme ++ "://" ++ user).toList ++ ':' :: password.toList := by
    simp [hscheme, huser, hpassword]
  obtain ⟨shown, hidden, hcut, hshown⟩ :=
    cutLast_address (scheme ++ "://" ++ user).toList password.toList
  have hincludes : includes "://".toList ((scheme ++ "://" ++ user).toList ++ shown) = true := by
    refine includes_iff.mpr ⟨scheme.toList, user.toList ++ shown, ?_⟩
    simp
  rw [htext, mask, cutFirst_append hat]
  simp only [hcut, hincludes, if_true]
  have hmasked : ":****@".toList = [':'] ++ "****@".toList := rfl
  rw [hmasked, ← List.append_assoc, List.append_assoc _ shown, hshown]
  simp

theorem create_address {id : String} (hid : IsId id) (hscheme : IsNetworkScheme scheme)
    (user password remainder : String) :
    ∃ config, create id (address scheme user password remainder) = .ok config ∧
      config.connectionString = address scheme user password remainder := by
  obtain ⟨product, hproduct⟩ := ofConnectionString?_address hscheme user password remainder
  have hall : (!id.toList.all isIdChar) = false := by
    rw [Bool.not_eq_false', List.all_eq_true]
    exact hid.2
  refine ⟨{ id, product, connectionString := address scheme user password remainder }, ?_, rfl⟩
  rw [create, if_neg hid.1, hall, if_neg Bool.false_ne_true, hproduct]

end

/-- Two addresses that differ in their passwords are shown alike if and only if the passwords agree up
to their last colons: what stands there is not hidden, and everything else is. -/
theorem masked_eq_masked_iff {scheme user password other remainder id id' : String}
    (hscheme : IsNetworkScheme scheme) (huser : '@' ∉ user.toList)
    (hpassword : '@' ∉ password.toList) (hother : '@' ∉ other.toList) (hid : IsId id)
    (hid' : IsId id') :
    ∃ first second, create id (address scheme user password remainder) = .ok first ∧
      create id' (address scheme user other remainder) = .ok second ∧
        (first.masked = second.masked ↔
          throughLast ':' password.toList = throughLast ':' other.toList) := by
  have hat := (not_mem_scheme hscheme).1
  obtain ⟨first, hfirst, hstring⟩ := create_address hid hscheme user password remainder
  obtain ⟨second, hsecond, hstring'⟩ := create_address hid' hscheme user other remainder
  refine ⟨first, second, hfirst, hsecond, ?_⟩
  rw [masked, masked, hstring, hstring', mask_address hat huser hpassword,
    mask_address hat huser hother, String.ofList_inj, List.append_left_inj, List.append_left_inj,
    List.append_right_inj]

/-- Passwords without colons, under a scheme in mixed case. -/
theorem masked_eq_masked_iff_noColon :
    IsNetworkScheme "MariaDB" ∧ '@' ∉ "u".toList ∧ '@' ∉ "s3cr%40t".toList ∧
      '@' ∉ "(x)".toList ∧ IsId "blog" ∧ IsId "blog-2" ∧
      ∃ first second, create "blog" (address "MariaDB" "u" "s3cr%40t" "h:1/d") = .ok first ∧
        create "blog-2" (address "MariaDB" "u" "(x)" "h:1/d") = .ok second ∧
          (first.masked = second.masked ↔
            throughLast ':' "s3cr%40t".toList = throughLast ':' "(x)".toList) := by
  have hscheme : IsNetworkScheme "MariaDB" := ⟨.mysql, by decide⟩
  have hid : IsId "blog" ∧ IsId "blog-2" := ⟨⟨by decide, by decide⟩, by decide, by decide⟩
  exact ⟨hscheme, by decide, by decide, by decide, hid.1, hid.2,
    masked_eq_masked_iff hscheme (by decide) (by decide) (by decide) hid.1 hid.2⟩

/-- A password with a colon in it is shown up to there. -/
theorem masked_shows_password :
    ∃ first second, create "blog" (address "mysql" "u" "a:b" "h/d") = .ok first ∧
      create "blog" (address "mysql" "u" "c:b" "h/d") = .ok second ∧
        first.masked = "mysql://u:a:****@h/d" ∧ second.masked = "mysql://u:c:****@h/d" :=
  ⟨_, _, rfl, rfl, by decide, by decide⟩

end ConnectionConfig

end PortableSql
