import Gosoline.Mon.Logger

/-!
# The MySQL ORM fixture writer

`Purge` of `mysqlOrmFixtureWriter` empties the fixture table through its purger and logs the
outcome. `Write` hands each fixture of a set to the repository's `Update`, in order, and returns
the first error; only when every update succeeded does it log how many fixtures it loaded.

The purger and the repository are outside the sources we have. They are given by what they do to
the database, a state `Db`: the purge, and the update of one model. A fixture set's items are
given as the models the type assertion `item.(db_repo.ModelBased)` yields.
-/

namespace Gosoline.Fixtures

open Mon

variable {Ctx Buf Db M : Type}

/-- What `Purge` and `Write` use of a `mysqlOrmFixtureWriter`: its logger, the table name of its
metadata, its purger's `purgeMysql` and its repository's `Update`. -/
structure MysqlOrmFixtureWriter (Ctx Db M : Type) where
  logger : Logger Ctx
  tableName : String
  purgeMysql : Db → Except String Unit × Db
  update : M → Db → Except String Unit × Db

namespace MysqlOrmFixtureWriter

variable (env : LogEnv Ctx Buf) (m : MysqlOrmFixtureWriter Ctx Db M)

/-- `Purge`: its error, the database it leaves and the records it writes. -/
def purge (db : Db) : Except String Unit × Db × List Buf :=
  match m.purgeMysql db with
  | (.error err, db) =>
    (.error err, db, m.logger.error env (some err)
      "error occured during purging of table %s in plain mysql fixture loader" [.string m.tableName])
  | (.ok (), db) => (.ok (), db, m.logger.info env "purged table for orm mysql fixtures" [])

/-- The loop of `Write`: `Update` of each model in order, returning at the first error. -/
def updateAll : List M → Db → Except String Unit × Db
  | [], db => (.ok (), db)
  | model :: fixtures, db =>
    match m.update model db with
    | (.error err, db) => (.error err, db)
    | (.ok (), db) => updateAll fixtures db

/-- `Write` of the fixture set `fixtures`: its error, the database it leaves and the records it
writes. -/
def write (fixtures : List M) (db : Db) : Except String Unit × Db × List Buf :=
  match m.updateAll fixtures db with
  | (.error err, db) => (.error err, db, [])
  | (.ok (), db) =>
    (.ok (), db, m.logger.info env "loaded %d mysql fixtures" [.scalar (toString fixtures.length)])

/-- The loop over a set split in two: the second part runs from where the first left the
database, unless the first failed. -/
theorem updateAll_append (before after : List M) (db : Db) :
    m.updateAll (before ++ after) db =
      match m.updateAll before db with
      | (.error err, db) => (.error err, db)
      | (.ok (), db) => m.updateAll after db := by
  induction before generalizing db with
  | nil => rfl
  | cons model before ih =>
    simp only [List.cons_append, updateAll]
    split
    · rfl
    · exact ih _

/-- `Write` stops at the first failed update. When the fixtures before `model` were updated and
the update of `model` fails, `Write` returns that update's error and the database it left,
writes no record, and never hands the fixtures after `model` to the repository. -/
theorem write_of_update_error {before : List M} {model : M} {db db₁ db₂ : Db} {err : String}
    (hbefore : m.updateAll before db = (.ok (), db₁)) (hmodel : m.update model db₁ = (.error err, db₂))
    (after : List M) : m.write env (before ++ model :: after) db = (.error err, db₂, []) := by
  rw [write, updateAll_append, hbefore]
  simp only [updateAll, hmodel]

end MysqlOrmFixtureWriter

end Gosoline.Fixtures
