/-!
# Hardware models

The numbers by which radios name their own hardware.
-/

namespace RadioSnapshot.Radio

/-- The known models, by number. -/
def hardwareModels : List (Int × String) :=
  [ (0, "UNSET"),
    (1, "TLORA_V2"),
    (2, "TLORA_V1"),
    (3, "TLORA_V2_1_1P6"),
    (4, "TBEAM"),
    (5, "HELTEC_V2_0"),
    (6, "TBEAM_V0P7"),
    (7, "T_ECHO"),
    (8, "TLORA_V1_1P3"),
    (9, "RAK4631"),
    (10, "HELTEC_V2_1"),
    (11, "HELTEC_V1"),
    (12, "LILYGO_TBEAM_S3_CORE"),
    (13, "RAK11200"),
    (14, "NANO_G1"),
    (15, "TLORA_V2_1_1P8"),
    (16, "TLORA_T3_S3"),
    (17, "NANO_G1_EXPLORER"),
    (18, "NANO_G2_ULTRA"),
    (25, "STATION_G1"),
    (26, "RAK11310"),
    (31, "STATION_G2"),
    (39, "DIY_V1"),
    (43, "HELTEC_V3"),
    (44, "HELTEC_WSL_V3"),
    (48, "HELTEC_WIRELESS_TRACKER"),
    (49, "HELTEC_WIRELESS_PAPER"),
    (50, "T_DECK"),
    (51, "T_WATCH_S3"),
    (69, "HELTEC_MESH_NODE_T114"),
    (71, "TRACKER_T1000_E"),
    (255, "PRIVATE_HW") ]

/-- The name of a known model. -/
def hardwareModelName? (model : Int32) : Option String :=
  hardwareModels.lookup model.toInt

end RadioSnapshot.Radio
