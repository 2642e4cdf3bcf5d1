import Gatehouse.Principal

/-!
# The schema

The statements that set up the tables. They are sent as one batch on the first connection, and
change nothing where the tables exist.
-/

namespace Gatehouse.Sql

/-- Sets up the table of the sessions of a kind, whose owners are rows of another table. -/
def sessionTableSetup (table owners : String) : List String :=
  [ "CREATE TABLE IF NOT EXISTS " ++ table ++ " (",
    "    id BIGSERIAL PRIMARY KEY,",
    "    principal_id BIGINT NOT NULL REFERENCES " ++ owners ++ "(id) ON DELETE CASCADE,",
    "    token TEXT NOT NULL UNIQUE,",
    "    user_agent TEXT,",
    "    ip_address TEXT,",
    "    issued_at TIMESTAMPTZ NOT NULL,",
    "    expires_at TIMESTAMPTZ NOT NULL,",
    "    revoked_at TIMESTAMPTZ",
    ");",
    "CREATE INDEX IF NOT EXISTS " ++ table ++ "_expires_idx",
    "    ON " ++ table ++ "(expires_at);" ]

/-- The lines that set up the tables. -/
def schemaLines : List String :=
  [ "CREATE TABLE IF NOT EXISTS stores (",
    "    id BIGSERIAL PRIMARY KEY,",
    "    name TEXT NOT NULL,",
    "    is_active BOOLEAN NOT NULL DEFAULT TRUE",
    ");",
    "CREATE TABLE IF NOT EXISTS staff_users (",
    "    id BIGSERIAL PRIMARY KEY,",
    "    username TEXT NOT NULL UNIQUE,",
    "    email TEXT NOT NULL,",
    "    password_hash TEXT NOT NULL,",
    "    role TEXT NOT NULL,",
    "    is_active BOOLEAN NOT NULL DEFAULT TRUE",
    ");",
    "CREATE TABLE IF NOT EXISTS staff_user_store_access (",
    "    staff_user_id BIGINT NOT NULL REFERENCES staff_users(id) ON DELETE CASCADE,",
    "    store_id BIGINT NOT NULL REFERENCES stores(id) ON DELETE CASCADE,",
    "    PRIMARY KEY (staff_user_id, store_id)",
    ");",
    "CREATE TABLE IF NOT EXISTS customers (",
    "    id BIGSERIAL PRIMARY KEY,",
    "    line_uid TEXT UNIQUE,",
    "    name TEXT NOT NULL,",
    "    email TEXT",
    ");" ]
  ++ sessionTableSetup "staff_user_tokens" "staff_users"
  ++ sessionTableSetup "customer_tokens" "customers"
  ++ [ "-- Cache and lock entries are disposable",
    "CREATE UNLOGGED TABLE IF NOT EXISTS auth_kv (",
    "    key TEXT PRIMARY KEY,",
    "    value BYTEA NOT NULL,",
    "    expires_at TIMESTAMPTZ NOT NULL",
    ");" ]

/-- The batch that sets up the tables. -/
def schema : String := String.intercalate "\n" schemaLines

end Gatehouse.Sql
