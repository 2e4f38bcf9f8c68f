import DataAccess.Fault
/-!
# 呼び出しの選択肢

検索・挿入・書き込み・トランザクションの選択肢。欄の値は呼び出し側の値のまま持ち、
使うところで真偽や整数として読む。欄の名前から作り、知らない名前は失敗。
-/

namespace DataAccess

/-- 検索の選択肢。`none` の欄は指定なし。 -/
structure FindOptions where
  order : Value := .none
  limit : Value := .none
  offset : Value := .none
  select : Value := .none
  group : Value := .none
  join : Value := .none
  joinParams : Value := .tuple []
  cte : Value := .none
  cteParams : Value := .tuple []
  forUpdate : Value := .bool false
  deriving Inhabited

/-- 挿入の選択肢。 -/
structure InsertOptions where
  onConflict : Value := .none
  onConflictIgnore : Value := .bool false
  /-- 衝突したとき上書きする列（並びか `"all"`）。 -/
  onConflictUpdate : Value := .none
  returning : Value := .bool true
  autocommit : Value := .bool false
  deriving Inhabited

/-- 更新・削除の選択肢。 -/
structure WriteOptions where
  returning : Value := .bool true
  autocommit : Value := .bool false
  deriving Inhabited

/-- トランザクションの選択肢。`none` は設定に従う。 -/
structure TransactionOptions where
  retryOnError : Value := .none
  retryLimit : Value := .none
  retryDelayMs : Value := .none
  rollbackOnly : Value := .bool false
  deriving Inhabited

/-- 知らない欄の名前の失敗。 -/
def unexpectedField (cls key : String) : Fault :=
  Fault.other "TypeError" (cls ++ ".__init__() got an unexpected keyword argument " ++ quoteText key)

/-- 欄を順に当てる。 -/
def applyFields {α : Type} (cls : String) (set : α → String → Value → Option α) (init : α)
    (fields : List (String × Value)) : Except Fault α :=
  fields.foldlM (fun acc (k, v) =>
    match set acc k v with
    | some a => .ok a
    | none => .error (unexpectedField cls k)) init

/-- 欄の名前から検索の選択肢を作る。 -/
def FindOptions.ofFields (fields : List (String × Value)) : Except Fault FindOptions :=
  applyFields "FindOptions" (fun o k v => match k with
    | "order" => some { o with order := v }
    | "limit" => some { o with limit := v }
    | "offset" => some { o with offset := v }
    | "select" => some { o with select := v }
    | "group" => some { o with group := v }
    | "join" => some { o with join := v }
    | "join_params" => some { o with joinParams := v }
    | "cte" => some { o with cte := v }
    | "cte_params" => some { o with cteParams := v }
    | "for_update" => some { o with forUpdate := v }
    | _ => none) {} fields

/-- 欄の名前から挿入の選択肢を作る。 -/
def InsertOptions.ofFields (fields : List (String × Value)) : Except Fault InsertOptions :=
  applyFields "InsertOptions" (fun o k v => match k with
    | "on_conflict" => some { o with onConflict := v }
    | "on_conflict_ignore" => some { o with onConflictIgnore := v }
    | "on_conflict_update" => some { o with onConflictUpdate := v }
    | "returning" => some { o with returning := v }
    | "autocommit" => some { o with autocommit := v }
    | _ => none) {} fields

/-- 欄の名前から書き込みの選択肢を作る。 -/
def WriteOptions.ofFields (fields : List (String × Value)) : Except Fault WriteOptions :=
  applyFields "WriteOptions" (fun o k v => match k with
    | "returning" => some { o with returning := v }
    | "autocommit" => some { o with autocommit := v }
    | _ => none) {} fields

/-- 欄の名前からトランザクションの選択肢を作る。 -/
def TransactionOptions.ofFields (fields : List (String × Value)) : Except Fault TransactionOptions :=
  applyFields "TransactionOptions" (fun o k v => match k with
    | "retry_on_error" => some { o with retryOnError := v }
    | "retry_limit" => some { o with retryLimit := v }
    | "retry_delay_ms" => some { o with retryDelayMs := v }
    | "rollback_only" => some { o with rollbackOnly := v }
    | _ => none) {} fields

end DataAccess
