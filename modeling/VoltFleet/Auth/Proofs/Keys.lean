import VoltFleet.Auth.AuthService

/-!
# The keys of the cache

The prefix of a key tells which operation has written it, and a session or refresh
key gives back its user and its token.
-/

namespace VoltFleet.AuthService

/-- `"prefix:" + userId + ":" + token` is read back: the length of a user's key is fixed. -/
theorem userKey_inj {pre : String} {u u' : Uuid} {t t' : String}
    (h : pre ++ (u.text ++ (":" ++ t)) = pre ++ (u'.text ++ (":" ++ t'))) : u = u' ∧ t = t' := by
  have hl := congrArg String.toList h
  simp only [String.toList_append] at hl
  have hlen : u.text.toList.length = u'.text.toList.length := by
    rw [u.text_length, u'.text_length]
  obtain ⟨hu, ht⟩ := List.append_inj (List.append_cancel_left hl) hlen
  exact ⟨Uuid.text_inj.mp (String.toList_inj.mp hu),
    String.toList_inj.mp (List.append_cancel_left ht)⟩

theorem refreshKey_inj {u u' : Uuid} {t t' : String} :
    refreshKey u t = refreshKey u' t' ↔ u = u' ∧ t = t' := by
  constructor
  · exact userKey_inj
  · rintro ⟨rfl, rfl⟩
    rfl

/-- Texts whose beginnings differ at one place are different. -/
theorem append_ne_append {a b : String} (i : Nat) (ha : i < a.toList.length)
    (hb : i < b.toList.length) (h : a.toList[i] ≠ b.toList[i]) (s t : String) :
    a ++ s ≠ b ++ t := by
  intro he
  have hi := congrArg (fun l => l[i]?) (congrArg String.toList he)
  rw [String.toList_append, String.toList_append, List.getElem?_append_left ha,
    List.getElem?_append_left hb, List.getElem?_eq_getElem ha, List.getElem?_eq_getElem hb] at hi
  exact h (Option.some.inj hi)

theorem refreshKey_ne_sessionKey (u u' : Uuid) (t t' : String) :
    refreshKey u t ≠ sessionKey u' t' :=
  append_ne_append 0 (by decide) (by decide) (by decide) _ _

theorem refreshKey_ne_resetPasswordKey (u : Uuid) (t userId : String) :
    refreshKey u t ≠ resetPasswordKey userId :=
  append_ne_append 2 (by decide) (by decide) (by decide) _ _

end VoltFleet.AuthService
