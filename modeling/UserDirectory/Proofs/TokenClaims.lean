import UserDirectory.Token.Verify

/-!
# Tokens and the claims they stand for

A test token `test:<subject>` or `test:<subject>:<role>` stands for the claims `testClaims`: its
subject piece as `sub` and its role piece, when there is one, as `role`. The main statement,
`verifyTestToken_eq_normalizeClaims`, says three things:

* verifying a test token refuses as invalid exactly the tokens whose pieces do not have that shape;
* a token of that shape gives what normalizing its claims gives, the same caller, the same missing
  identity or the same subject that cannot name a caller;
* a platform token whose claims pass the audience and issuer checks gives its normalized claims.

The helpers compute the subject and the role of `testClaims`: the subject is the subject piece
stripped, and the role is the one that the role piece, stripped, names.
-/

namespace UserDirectory.Token

open UserDirectory.Json UserDirectory.Account UserDirectory.Text

theorem subjectOf_testClaims (s : Text) (r : Option Text) :
    subjectOf (testClaims s r) = s.strip := by
  cases r <;> by_cases h : s.strip.isEmpty
  all_goals simp [subjectOf, subjectClaims, claimText, testClaims, Value.getD, Value.get?,
    List.lookup_cons, List.lookup_nil, List.find?, h]
  all_goals exact (Text.eq_empty_of_isEmpty h).symm

theorem roleOfClaim_testClaims (s : Text) (r : Option Text) :
    roleOfClaim (roleClaim? (testClaims s r)) = Role.ofClaim (r.getD Text.empty).strip := by
  cases r with
  | none =>
    simp [roleClaim?, roleClaims, testClaims, Value.getD, Value.get?, List.lookup_cons,
      List.lookup_nil, List.find?, Value.truthy, roleOfClaim, Role.ofClaim_empty]
  | some x =>
    by_cases hx : x.isEmpty
    · rw [Text.eq_empty_of_isEmpty hx]
      simp [roleClaim?, roleClaims, testClaims, Value.getD, Value.get?, List.lookup_cons,
        List.lookup_nil, List.find?, Value.truthy, roleOfClaim, Role.ofClaim_empty]
    · simp [roleClaim?, roleClaims, testClaims, Value.getD, Value.get?, List.lookup_cons,
        List.lookup_nil, Value.truthy, roleOfClaim, Value.display, Role.ofClaim_strip, hx]

theorem callerFor_ne_rejected (subject : Text) (role : Role) (m : String) :
    callerFor subject role ≠ .error (.rejected m) := by
  unfold callerFor
  cases Caller.make (.text subject) role with
  | ok c => intro h; cases h
  | error e => intro h; cases h

theorem normalizeClaims_ne_rejected (claims : Value) (m : String) :
    normalizeClaims claims ≠ .error (.rejected m) := by
  unfold normalizeClaims
  dsimp only
  split
  · simp
  · exact callerFor_ne_rejected _ _ m

theorem verifyTestToken_of_pieces {token s : Text} {r : Option Text}
    (h : token.splitOn ':' = Text.ofString "test" :: s :: r.toList) :
    verifyTestToken token = normalizeClaims (testClaims s r) := by
  have hrole := roleOfClaim_testClaims s r
  unfold verifyTestToken normalizeClaims
  rw [h, subjectOf_testClaims, hrole]
  cases r <;> by_cases hs : s.strip.isEmpty <;> simp [verifyTestToken.fromPieces, hs]

theorem verifyTestToken_rejected {token : Text}
    (h : ¬ ∃ (s : Text) (r : Option Text), token.splitOn ':' = Text.ofString "test" :: s :: r.toList) :
    verifyTestToken token = .error (.rejected "Invalid bearer token") := by
  unfold verifyTestToken
  split
  · rename_i tag subject hp
    by_cases ht : tag = Text.ofString "test"
    · exact absurd ⟨subject, none, by simp [hp, ht]⟩ h
    · rw [verifyTestToken.fromPieces, if_pos ht]
  · rename_i tag subject role hp
    by_cases ht : tag = Text.ofString "test"
    · exact absurd ⟨subject, some role, by simp [hp, ht]⟩ h
    · rw [verifyTestToken.fromPieces, if_pos ht]
  · rfl

theorem checkPlatformClaims_of_holds {cfg : PlatformConfig} {claims : Value}
    (ha : audienceHolds cfg claims = true) (hi : issuerHolds cfg claims = true) :
    checkPlatformClaims cfg (.ok claims) = normalizeClaims claims := by
  simp [checkPlatformClaims, ha, hi]

/-- Both verifiers normalize the claims they accept: a test token is refused as invalid exactly
when its pieces are not `test`, a subject and at most one role, and otherwise gives what its
claims normalize to; a platform token whose claims pass the checks gives its normalized claims. -/
theorem verifyTestToken_eq_normalizeClaims (token : Text) :
    (verifyTestToken token = .error (.rejected "Invalid bearer token") ↔
      ¬ ∃ (s : Text) (r : Option Text),
        token.splitOn ':' = Text.ofString "test" :: s :: r.toList) ∧
    (∀ (s : Text) (r : Option Text),
      token.splitOn ':' = Text.ofString "test" :: s :: r.toList →
        verifyTestToken token = normalizeClaims (testClaims s r)) ∧
    (∀ (cfg : PlatformConfig) (claims : Value),
      audienceHolds cfg claims = true → issuerHolds cfg claims = true →
        (verifyPlatformToken cfg token (.ok claims)).1 = normalizeClaims claims) := by
  refine ⟨⟨fun hv ⟨s, r, hp⟩ => ?_, verifyTestToken_rejected⟩,
    fun _ _ hp => verifyTestToken_of_pieces hp, fun _ _ ha hi => checkPlatformClaims_of_holds ha hi⟩
  rw [verifyTestToken_of_pieces hp] at hv
  exact normalizeClaims_ne_rejected _ _ hv

/-- An administrator test token is its claims, and a platform with nothing configured accepts
any claims as they normalize. -/
theorem adminTestToken_normalizes :
    (Text.ofString "test:ext-1:admin").splitOn ':' =
      Text.ofString "test" :: Text.ofString "ext-1" :: [Text.ofString "admin"] ∧
    verifyTestToken (Text.ofString "test:ext-1:admin") =
      normalizeClaims (testClaims (Text.ofString "ext-1") (some (Text.ofString "admin"))) ∧
    audienceHolds {} (.obj [("sub", .str (Text.ofString "ext-1"))]) = true ∧
    issuerHolds {} (.obj [("sub", .str (Text.ofString "ext-1"))]) = true ∧
    (verifyPlatformToken {} (Text.ofString "test:ext-1:admin")
        (.ok (.obj [("sub", .str (Text.ofString "ext-1"))]))).1 =
      normalizeClaims (.obj [("sub", .str (Text.ofString "ext-1"))]) :=
  have hp : (Text.ofString "test:ext-1:admin").splitOn ':' =
      Text.ofString "test" :: Text.ofString "ext-1" :: (some (Text.ofString "admin")).toList := by
    decide
  ⟨hp, (verifyTestToken_eq_normalizeClaims (Text.ofString "test:ext-1:admin")).2.1 _ _ hp, rfl, rfl,
    (verifyTestToken_eq_normalizeClaims (Text.ofString "test:ext-1:admin")).2.2 {} _ rfl rfl⟩

end UserDirectory.Token
