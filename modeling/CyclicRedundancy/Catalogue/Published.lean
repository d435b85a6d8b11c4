import CyclicRedundancy.Calculator

/-!
# Published algorithms

The algorithms of the catalogue, in its order: by width, then by name. Those that have a preset come
first, under names of their own.
-/

namespace CyclicRedundancy.Catalogue

/-- An algorithm with published parameters: name, width, polynomial, initial register, the two
reflection flags, the value added at the end, and the check value. -/
def published (name : String) (width : Nat) (poly init : UInt64) (refIn refOut : Bool)
    (xorOut check : UInt64) (fits : 0 < width ∧ width ≤ 64 := by decide) : Algorithm where
  name := name
  model := Model.cut { width, poly, init, refIn, refOut, xorOut } check fits.1 fits.2

/-- The published algorithm CRC-8/SMBUS. -/
def crc8Smbus : Algorithm :=
  published "CRC-8/SMBUS" 8 0x07 0x00 false false 0x00 0xF4

/-- The published algorithm CRC-16/ARC. -/
def crc16Arc : Algorithm :=
  published "CRC-16/ARC" 16 0x8005 0x0000 true true 0x0000 0xBB3D

/-- The published algorithm CRC-16/IBM-SDLC. -/
def crc16IbmSdlc : Algorithm :=
  published "CRC-16/IBM-SDLC" 16 0x1021 0xFFFF true true 0xFFFF 0x906E

/-- The published algorithm CRC-32/BZIP2. -/
def crc32Bzip2 : Algorithm :=
  published "CRC-32/BZIP2" 32 0x04C11DB7 0xFFFFFFFF false false 0xFFFFFFFF 0xFC891918

/-- The published algorithm CRC-32/ISCSI. -/
def crc32Iscsi : Algorithm :=
  published "CRC-32/ISCSI" 32 0x1EDC6F41 0xFFFFFFFF true true 0xFFFFFFFF 0xE3069283

/-- The published algorithm CRC-32/ISO-HDLC. -/
def crc32IsoHdlc : Algorithm :=
  published "CRC-32/ISO-HDLC" 32 0x04C11DB7 0xFFFFFFFF true true 0xFFFFFFFF 0xCBF43926

/-- The published algorithm CRC-64/ECMA-182. -/
def crc64Ecma182 : Algorithm :=
  published "CRC-64/ECMA-182" 64 0x42F0E1EBA9EA3693 0x0000000000000000
    false false 0x0000000000000000 0x6C40DF5F0B497347

/-- The published algorithm CRC-64/WE. -/
def crc64We : Algorithm :=
  published "CRC-64/WE" 64 0x42F0E1EBA9EA3693 0xFFFFFFFFFFFFFFFF
    false false 0xFFFFFFFFFFFFFFFF 0x62EC59E3F1A4F00A

/-- The published algorithm CRC-64/XZ. -/
def crc64Xz : Algorithm :=
  published "CRC-64/XZ" 64 0x42F0E1EBA9EA3693 0xFFFFFFFFFFFFFFFF
    true true 0xFFFFFFFFFFFFFFFF 0x995DC9BBDF1939FA

/-- Every algorithm of the catalogue. -/
def algorithms : List Algorithm :=
  [published "CRC-3/GSM" 3 0x3 0x0 false false 0x7 0x4,
    published "CRC-3/ROHC" 3 0x3 0x7 true true 0x0 0x6,
    published "CRC-4/G-704" 4 0x3 0x0 true true 0x0 0x7,
    published "CRC-4/INTERLAKEN" 4 0x3 0xF false false 0xF 0xB,
    published "CRC-5/EPC-C1G2" 5 0x09 0x09 false false 0x00 0x00,
    published "CRC-5/G-704" 5 0x15 0x00 true true 0x00 0x07,
    published "CRC-5/USB" 5 0x05 0x1F true true 0x1F 0x19,
    published "CRC-6/CDMA2000-A" 6 0x27 0x3F false false 0x00 0x0D,
    published "CRC-6/CDMA2000-B" 6 0x07 0x3F false false 0x00 0x3B,
    published "CRC-6/DARC" 6 0x19 0x00 true true 0x00 0x26,
    published "CRC-6/G-704" 6 0x03 0x00 true true 0x00 0x06,
    published "CRC-6/GSM" 6 0x2F 0x00 false false 0x3F 0x13,
    published "CRC-7/MMC" 7 0x09 0x00 false false 0x00 0x75,
    published "CRC-7/ROHC" 7 0x4F 0x7F true true 0x00 0x53,
    published "CRC-7/UMTS" 7 0x45 0x00 false false 0x00 0x61,
    published "CRC-8/AUTOSAR" 8 0x2F 0xFF false false 0xFF 0xDF,
    published "CRC-8/BLUETOOTH" 8 0xA7 0x00 true true 0x00 0x26,
    published "CRC-8/CDMA2000" 8 0x9B 0xFF false false 0x00 0xDA,
    published "CRC-8/DARC" 8 0x39 0x00 true true 0x00 0x15,
    published "CRC-8/DVB-S2" 8 0xD5 0x00 false false 0x00 0xBC,
    published "CRC-8/GSM-A" 8 0x1D 0x00 false false 0x00 0x37,
    published "CRC-8/GSM-B" 8 0x49 0x00 false false 0xFF 0x94,
    published "CRC-8/I-432-1" 8 0x07 0x00 false false 0x55 0xA1,
    published "CRC-8/I-CODE" 8 0x1D 0xFD false false 0x00 0x7E,
    published "CRC-8/LTE" 8 0x9B 0x00 false false 0x00 0xEA,
    published "CRC-8/MAXIM-DOW" 8 0x31 0x00 true true 0x00 0xA1,
    published "CRC-8/MIFARE-MAD" 8 0x1D 0xC7 false false 0x00 0x99,
    published "CRC-8/NRSC-5" 8 0x31 0xFF false false 0x00 0xF7,
    published "CRC-8/OPENSAFETY" 8 0x2F 0x00 false false 0x00 0x3E,
    published "CRC-8/ROHC" 8 0x07 0xFF true true 0x00 0xD0,
    published "CRC-8/SAE-J1850" 8 0x1D 0xFF false false 0xFF 0x4B,
    crc8Smbus,
    published "CRC-8/TECH-3250" 8 0x1D 0xFF true true 0x00 0x97,
    published "CRC-8/WCDMA" 8 0x9B 0x00 true true 0x00 0x25,
    published "CRC-10/ATM" 10 0x233 0x000 false false 0x000 0x199,
    published "CRC-10/CDMA2000" 10 0x3D9 0x3FF false false 0x000 0x233,
    published "CRC-10/GSM" 10 0x175 0x000 false false 0x3FF 0x12A,
    published "CRC-11/FLEXRAY" 11 0x385 0x01A false false 0x000 0x5A3,
    published "CRC-11/UMTS" 11 0x307 0x000 false false 0x000 0x061,
    published "CRC-12/CDMA2000" 12 0xF13 0xFFF false false 0x000 0xD4D,
    published "CRC-12/DECT" 12 0x80F 0x000 false false 0x000 0xF5B,
    published "CRC-12/GSM" 12 0xD31 0x000 false false 0xFFF 0xB34,
    published "CRC-12/UMTS" 12 0x80F 0x000 false true 0x000 0xDAF,
    published "CRC-13/BBC" 13 0x1CF5 0x0000 false false 0x0000 0x04FA,
    published "CRC-14/DARC" 14 0x0805 0x0000 true true 0x0000 0x082D,
    published "CRC-14/GSM" 14 0x202D 0x0000 false false 0x3FFF 0x30AE,
    published "CRC-15/CAN" 15 0x4599 0x0000 false false 0x0000 0x059E,
    published "CRC-15/MPT1327" 15 0x6815 0x0000 false false 0x0001 0x2566,
    crc16Arc,
    published "CRC-16/CDMA2000" 16 0xC867 0xFFFF false false 0x0000 0x4C06,
    published "CRC-16/CMS" 16 0x8005 0xFFFF false false 0x0000 0xAEE7,
    published "CRC-16/DDS-110" 16 0x8005 0x800D false false 0x0000 0x9ECF,
    published "CRC-16/DECT-R" 16 0x0589 0x0000 false false 0x0001 0x007E,
    published "CRC-16/DECT-X" 16 0x0589 0x0000 false false 0x0000 0x007F,
    published "CRC-16/DNP" 16 0x3D65 0x0000 true true 0xFFFF 0xEA82,
    published "CRC-16/EN-13757" 16 0x3D65 0x0000 false false 0xFFFF 0xC2B7,
    published "CRC-16/GENIBUS" 16 0x1021 0xFFFF false false 0xFFFF 0xD64E,
    published "CRC-16/GSM" 16 0x1021 0x0000 false false 0xFFFF 0xCE3C,
    published "CRC-16/IBM-3740" 16 0x1021 0xFFFF false false 0x0000 0x29B1,
    crc16IbmSdlc,
    published "CRC-16/ISO-IEC-14443-3-A" 16 0x1021 0xC6C6 true true 0x0000 0xBF05,
    published "CRC-16/KERMIT" 16 0x1021 0x0000 true true 0x0000 0x2189,
    published "CRC-16/LJ1200" 16 0x6F63 0x0000 false false 0x0000 0xBDF4,
    published "CRC-16/MAXIM-DOW" 16 0x8005 0x0000 true true 0xFFFF 0x44C2,
    published "CRC-16/MCRF4XX" 16 0x1021 0xFFFF true true 0x0000 0x6F91,
    published "CRC-16/MODBUS" 16 0x8005 0xFFFF true true 0x0000 0x4B37,
    published "CRC-16/NRSC-5" 16 0x080B 0xFFFF true true 0x0000 0xA066,
    published "CRC-16/OPENSAFETY-A" 16 0x5935 0x0000 false false 0x0000 0x5D38,
    published "CRC-16/OPENSAFETY-B" 16 0x755B 0x0000 false false 0x0000 0x20FE,
    published "CRC-16/PROFIBUS" 16 0x1DCF 0xFFFF false false 0xFFFF 0xA819,
    published "CRC-16/RIELLO" 16 0x1021 0xB2AA true true 0x0000 0x63D0,
    published "CRC-16/SPI-FUJITSU" 16 0x1021 0x1D0F false false 0x0000 0xE5CC,
    published "CRC-16/T10-DIF" 16 0x8BB7 0x0000 false false 0x0000 0xD0DB,
    published "CRC-16/TELEDISK" 16 0xA097 0x0000 false false 0x0000 0x0FB3,
    published "CRC-16/TMS37157" 16 0x1021 0x89EC true true 0x0000 0x26B1,
    published "CRC-16/UMTS" 16 0x8005 0x0000 false false 0x0000 0xFEE8,
    published "CRC-16/USB" 16 0x8005 0xFFFF true true 0xFFFF 0xB4C8,
    published "CRC-16/XMODEM" 16 0x1021 0x0000 false false 0x0000 0x31C3,
    published "CRC-17/CAN-FD" 17 0x1685B 0x00000 false false 0x00000 0x04F03,
    published "CRC-21/CAN-FD" 21 0x102899 0x000000 false false 0x000000 0x0ED841,
    published "CRC-24/BLE" 24 0x00065B 0x555555 true true 0x000000 0xC25A56,
    published "CRC-24/FLEXRAY-A" 24 0x5D6DCB 0xFEDCBA false false 0x000000 0x7979BD,
    published "CRC-24/FLEXRAY-B" 24 0x5D6DCB 0xABCDEF false false 0x000000 0x1F23B8,
    published "CRC-24/INTERLAKEN" 24 0x328B63 0xFFFFFF false false 0xFFFFFF 0xB4F3E6,
    published "CRC-24/LTE-A" 24 0x864CFB 0x000000 false false 0x000000 0xCDE703,
    published "CRC-24/LTE-B" 24 0x800063 0x000000 false false 0x000000 0x23EF52,
    published "CRC-24/OPENPGP" 24 0x864CFB 0xB704CE false false 0x000000 0x21CF02,
    published "CRC-24/OS-9" 24 0x800063 0xFFFFFF false false 0xFFFFFF 0x200FA5,
    published "CRC-30/CDMA" 30 0x2030B9C7 0x3FFFFFFF false false 0x3FFFFFFF 0x04C34ABF,
    published "CRC-31/PHILIPS" 31 0x04C11DB7 0x7FFFFFFF false false 0x7FFFFFFF 0x0CE9E46C,
    published "CRC-32/AIXM" 32 0x814141AB 0x00000000 false false 0x00000000 0x3010BF7F,
    published "CRC-32/AUTOSAR" 32 0xF4ACFB13 0xFFFFFFFF true true 0xFFFFFFFF 0x1697D06A,
    published "CRC-32/BASE91-D" 32 0xA833982B 0xFFFFFFFF true true 0xFFFFFFFF 0x87315576,
    crc32Bzip2,
    published "CRC-32/CD-ROM-EDC" 32 0x8001801B 0x00000000 true true 0x00000000 0x6EC2EDC4,
    published "CRC-32/CKSUM" 32 0x04C11DB7 0x00000000 false false 0xFFFFFFFF 0x765E7680,
    crc32Iscsi,
    crc32IsoHdlc,
    published "CRC-32/JAMCRC" 32 0x04C11DB7 0xFFFFFFFF true true 0x00000000 0x340BC6D9,
    published "CRC-32/MPEG-2" 32 0x04C11DB7 0xFFFFFFFF false false 0x00000000 0x0376E6E7,
    published "CRC-32/XFER" 32 0x000000AF 0x00000000 false false 0x00000000 0xBD0BE338,
    published "CRC-40/GSM" 40 0x0004820009 0x0000000000 false false 0xFFFFFFFFFF 0xD4164FC646,
    crc64Ecma182,
    published "CRC-64/GO-ISO" 64 0x000000000000001B 0xFFFFFFFFFFFFFFFF
      true true 0xFFFFFFFFFFFFFFFF 0xB90956C775A41001,
    crc64We,
    crc64Xz]

end CyclicRedundancy.Catalogue
