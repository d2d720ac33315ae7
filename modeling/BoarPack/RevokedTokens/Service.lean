import Mathlib.Data.List.Basic

/-! `RevokedTokensService` over the `revoked_tokens` table. Times are milliseconds;
a jti or sid is a random uuid and stands as a number. -/
namespace BoarPack.RevokedTokens

inductive TokenType
  | access
  | refresh
  | session
  deriving DecidableEq, Repr

structure RevokedToken where
  jti : Nat
  sid : Option Nat
  tokenType : TokenType
  expiresAt : Int
  deriving DecidableEq, Repr

abbrev Table := List RevokedToken

/-- One row of `insert … orIgnore`: the unique constraint on `jti` makes it a no-op
when a row with that jti is there, whatever its other columns. -/
def insertOrIgnore (table : Table) (token : RevokedToken) : Table :=
  if table.any (fun row => row.jti == token.jti) then table else table ++ [token]

def revokeTokens (table : Table) (tokens : List RevokedToken) : Table :=
  tokens.foldl insertOrIgnore table

def revokeRefreshToken (table : Table) (token : RevokedToken) : Table :=
  revokeTokens table [token]

/-- The rows `revokeToken` inserts: the token, and its session when it has a sid.
The session row is dated from the clock, not from the token. -/
def tokensToRevoke (token : RevokedToken) (refreshTokenExpiration : Int) (now : Nat) :
    List RevokedToken :=
  match token.sid with
  | some sid => [token,⟨sid,some sid,.session,now + refreshTokenExpiration⟩]
  | none => [token]

def revokeToken (table : Table) (token : RevokedToken) (refreshTokenExpiration : Int) (now : Nat) :
    Table :=
  revokeTokens table (tokensToRevoke token refreshTokenExpiration now)

def matchesRevoked (jti : Nat) (sid : Option Nat) (row : RevokedToken) : Bool :=
  row.jti == jti || (sid.isSome && row.sid == sid && row.tokenType == .session)

def isTokenRevoked (table : Table) (jti : Nat) (sid : Option Nat) : Bool :=
  0 < table.countP (matchesRevoked jti sid)

def cleanupExpiredTokens (table : Table) (now : Nat) : Table :=
  table.filter (fun row => !decide (row.expiresAt < now))

theorem isTokenRevoked_iff (table : Table) (jti sid : Nat) :
    isTokenRevoked table jti (some sid) = true ↔
      ∃ row ∈ table, row.jti = jti ∨ (row.sid = some sid ∧ row.tokenType = .session) := by
  simp [isTokenRevoked,List.countP_pos_iff,matchesRevoked]

private theorem mem_insertOrIgnore (table : Table) (token row : RevokedToken)
    (member : row ∈ insertOrIgnore table token) : row ∈ table ∨ row = token := by
  unfold insertOrIgnore at member
  split at member
  next taken => exact Or.inl member
  next absent => simpa using member

private theorem mem_insertOrIgnore_old {table : Table} {row : RevokedToken} (token : RevokedToken)
    (member : row ∈ table) : row ∈ insertOrIgnore table token := by
  unfold insertOrIgnore
  split
  next taken => exact member
  next absent => exact List.mem_append_left _ member

private theorem insertOrIgnore_present (table : Table) (token : RevokedToken) :
    token ∈ insertOrIgnore table token ∨ ∃ row ∈ table, row.jti = token.jti := by
  unfold insertOrIgnore
  split
  next taken => exact Or.inr (by simpa using taken)
  next absent => exact Or.inl (by simp)

theorem mem_revokeTokens (table : Table) (tokens : List RevokedToken) (row : RevokedToken)
    (member : row ∈ revokeTokens table tokens) : row ∈ table ∨ row ∈ tokens := by
  induction tokens generalizing table with
  | nil => exact Or.inl member
  | cons token rest ih =>
    obtain before | later := ih (insertOrIgnore table token) member
    · obtain old | rfl := mem_insertOrIgnore table token row before
      · exact Or.inl old
      · exact Or.inr (by simp)
    · exact Or.inr (by simp [later])

theorem mem_revokeTokens_old {table : Table} {row : RevokedToken} (tokens : List RevokedToken)
    (member : row ∈ table) : row ∈ revokeTokens table tokens := by
  induction tokens generalizing table with
  | nil => exact member
  | cons token rest ih => exact ih (mem_insertOrIgnore_old token member)

theorem revokeTokens_present (table : Table) (tokens : List RevokedToken) (token : RevokedToken)
    (inserted : token ∈ tokens) :
    token ∈ revokeTokens table tokens ∨
      ∃ row, (row ∈ table ∨ row ∈ tokens) ∧ row ∈ revokeTokens table tokens ∧ row.jti = token.jti := by
  induction tokens generalizing table with
  | nil => simp at inserted
  | cons head rest ih =>
    obtain rfl | later := List.mem_cons.mp inserted
    · obtain placed | ⟨row,member,same⟩ := insertOrIgnore_present table token
      · exact Or.inl (mem_revokeTokens_old rest placed)
      · exact Or.inr ⟨row,Or.inl member,mem_revokeTokens_old rest (mem_insertOrIgnore_old token member),same⟩
    · obtain placed | ⟨row,source,member,same⟩ := ih (insertOrIgnore table head) later
      · exact Or.inl placed
      · refine Or.inr ⟨row,?_,member,same⟩
        obtain before | after := source
        · obtain old | rfl := mem_insertOrIgnore table head row before
          · exact Or.inl old
          · exact Or.inr (by simp)
        · exact Or.inr (by simp [after])

theorem mem_cleanupExpiredTokens (table : Table) (now : Nat) (row : RevokedToken) :
    row ∈ cleanupExpiredTokens table now ↔ row ∈ table ∧ now ≤ row.expiresAt := by
  simp [cleanupExpiredTokens]

end BoarPack.RevokedTokens
